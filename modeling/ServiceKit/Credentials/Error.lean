namespace ServiceKit

/-- Why a service did not answer with a result. -/
inductive ServiceFault where
  | unreachable
  | refused
deriving DecidableEq, Repr

namespace ServiceFault

def message : ServiceFault → String
  | unreachable => "dispatch failure"
  | refused => "service error"

end ServiceFault

/-- The requests that an error names. -/
inductive ServiceAction where
  | getUser
  | createAccessKey
  | deleteAccessKey
  | callerIdentity
deriving DecidableEq, Repr

namespace ServiceAction

def text : ServiceAction → String
  | getUser => "iam:GetUser"
  | createAccessKey => "iam:CreateAccessKey"
  | deleteAccessKey => "iam:DeleteAccessKey"
  | callerIdentity => "sts:GetCallerIdentity"

end ServiceAction

inductive CredentialsError where
  | partialKeys
  | noKeysToRotate
  | service (action : ServiceAction) (fault : ServiceFault)
  | keyNotAccepted (fault : ServiceFault)
  | noUser
  | noKey
deriving DecidableEq, Repr

namespace CredentialsError

def context : CredentialsError → Option String
  | service action _ => some action.text
  | _ => none

def serviceMessage (action : ServiceAction) (fault : ServiceFault) : String :=
  "AWS request failed (" ++ action.text ++ "): " ++ fault.message

def message : CredentialsError → String
  | partialKeys =>
    "Invalid AWS configuration: static AWS client credentials haven't been properly configured " ++
      "(the access key or secret key were provided but not both)"
  | noKeysToRotate => "Invalid AWS configuration: cannot rotate credentials when static credentials " ++
      "are not configured"
  | service action fault => serviceMessage action fault
  | keyNotAccepted fault => "Access key rotation failed: new access key was not accepted by STS: " ++
      serviceMessage .callerIdentity fault
  | noUser => "Internal error: iam:GetUser returned no user"
  | noKey => "Internal error: iam:CreateAccessKey returned no key"

end CredentialsError

end ServiceKit
