import ServiceKit.Net.Cidr
import ServiceKit.Value.Scalar

namespace ServiceKit.Value

/-- Reads a network; an address alone is the network of that one host. -/
def readCidr (entry : String) : Except ValueError Cidr :=
  let entry := Text.trim entry
  match Ip.parse? entry with
  | some ip => .ok (.host ip)
  | none =>
    match Cidr.parse? entry with
    | some net => .ok net
    | none => .error ⟨.address, some ("Failed to parse " ++ Text.quoted entry ++ " as a CIDR block")⟩

def readCidrs (v : Json) : Except ValueError (List Cidr) :=
  match readStrings v with
  | .error fault => .error (.invalid fault)
  | .ok entries => entries.mapM readCidr

end ServiceKit.Value
