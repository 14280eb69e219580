import ServiceKit.Text.Quoted
import ServiceKit.Value.Error

namespace ServiceKit

/-- Why a setting of a listener cannot be applied. -/
inductive SettingFault where
  | headerStatus
  | noHeaderName
  | headerName (name : String)
  | headerValue (name : String)
  | repeatedStatus (status : String)
  | octalMode (raw : String)
  | numericId (raw : String)
  | notSocket
  | system (fault : OsFault)
deriving DecidableEq, Repr

namespace SettingFault

def isHeader : SettingFault → Bool
  | headerStatus | noHeaderName | headerName _ | headerValue _ | repeatedStatus _ => true
  | _ => false

def detail : SettingFault → String
  | headerStatus =>
    "status key must be \"default\", a class like \"4xx\" or a code between 100 and 599"
  | noHeaderName => "header name must not be empty"
  | headerName name => Text.quoted name ++ ": invalid HTTP header name"
  | headerValue name => "value of " ++ Text.quoted name ++ ": failed to parse header value"
  | repeatedStatus status => Text.quoted status ++ " duplicates another status key"
  | octalMode raw => Text.quoted raw ++ " is not an octal mode"
  | numericId raw => Text.quoted raw ++ " must be a numeric id"
  | notSocket => "path exists and is not a socket"
  | system fault => fault.message

end SettingFault

/-- A setting that cannot be applied, and the place it stands at. -/
structure SettingError where
  fault : SettingFault
  place : String
deriving DecidableEq, Repr

namespace SettingError

def message (e : SettingError) : String :=
  let lead := match e.fault with
    | .system _ => "I/O error"
    | fault => if fault.isHeader then "Invalid custom response headers" else "Invalid listener setting"
  lead ++ inContext (some e.place) ++ ": " ++ e.fault.detail

end SettingError

end ServiceKit
