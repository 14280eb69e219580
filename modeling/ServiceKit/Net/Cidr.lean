import ServiceKit.Net.Ip
import ServiceKit.Number.Power

namespace ServiceKit

/-- A network: the addresses of one kind that agree with `addr` in the leading `length` bits. The
bits of `addr` behind them are kept. -/
structure Cidr where
  addr : Ip
  length : Nat
deriving DecidableEq, Repr

namespace Cidr

def host (ip : Ip) : Cidr :=
  ⟨ip, ip.width⟩

def contains (net : Cidr) (ip : Ip) : Bool :=
  net.addr.isV4 == ip.isV4 &&
    net.addr.bits / pow2 (net.addr.width - net.length) == ip.bits / pow2 (net.addr.width - net.length)

def render (net : Cidr) : String :=
  net.addr.render ++ "/" ++ toString net.length

/-- The count of leading bits after the slash, at most three digits. -/
def readLength (width : Nat) (s : List Char) : Option Nat :=
  match s with
  | '/' :: r =>
    match Ip.readGroup 10 3 true r with
    | some (n, []) => if n ≤ width then some n else none
    | _ => none
  | _ => none

/-- Reads an address and a length. Here the decimal parts of an address may have leading zeros and a
double colon may stand for no group at all. -/
def parse? (s : String) : Option Cidr :=
  let v4 := do
    let (a, r) ← Ip.readV4 true s.toList
    let n ← readLength 32 r
    some (Cidr.mk (.v4 a) n)
  let v6 := do
    let (a, r) ← Ip.readV6 true 0 s.toList
    let n ← readLength 128 r
    some (Cidr.mk (.v6 a) n)
  v4.or v6

end Cidr

end ServiceKit
