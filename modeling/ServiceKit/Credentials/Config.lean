import ServiceKit.Credentials.Error
import ServiceKit.Number.Integer
import ServiceKit.Text.Quoted

namespace ServiceKit

/-- A place where credentials can come from. -/
inductive CredentialSource where
  | static
  | environment
  | profile
  | webIdentity
  | containerMetadata
  | instanceMetadata
deriving DecidableEq, Repr

namespace CredentialSource

def text : CredentialSource → String
  | static => "static"
  | environment => "environment"
  | profile => "profile"
  | webIdentity => "web-identity"
  | containerMetadata => "container-metadata"
  | instanceMetadata => "instance-metadata"

end CredentialSource

/-- What is exchanged for the credentials of a role: a token in a file. -/
structure WebIdentity where
  tokenFile : String
  roleArn : String
  sessionName : String
deriving DecidableEq, Repr

structure CredentialsConfig where
  accessKey : Option String := none
  secretKey : Option String := none
  sessionToken : Option String := none
  region : Option String := none
  profile : Option String := none
  filename : Option String := none
  roleArn : Option String := none
  roleSessionName : Option String := none
  webIdentityTokenFile : Option String := none
  stsEndpoint : Option String := none
  iamEndpoint : Option String := none
  maxRetries : Nat := 3
  allowInstanceMetadata : Bool := true
deriving DecidableEq, Repr

namespace CredentialsConfig

/-- What a variable is set to. -/
abbrev Variables := String → Option String

def hasStaticKeys (c : CredentialsConfig) : Bool :=
  c.accessKey.isSome && c.secretKey.isSome

/-- Keys come in pairs. -/
def checkKeys (c : CredentialsConfig) : Except CredentialsError Unit :=
  if c.accessKey.isSome == c.secretKey.isSome then .ok () else .error .partialKeys

/-- Checks a configuration put together from options. -/
def build (c : CredentialsConfig) : Except CredentialsError CredentialsConfig :=
  match c.checkKeys with
  | .ok () => .ok c
  | .error e => .error e

/-! ### Text -/

/-- A path in quotes, in which single quotes are escaped too. -/
def quotedPath (s : String) : String :=
  String.ofList ('"' :: s.toList.flatMap (fun c =>
    if c = '\'' then ['\\', '\''] else Text.escapeChar c) ++ ['"'])

def optionText (f : α → String) : Option α → String
  | none => "None"
  | some a => "Some(" ++ f a ++ ")"

def redacted : Option String → String :=
  optionText fun _ => Text.quoted "<redacted>"

/-- The configuration as logs show it, without its secrets. -/
def debugText (c : CredentialsConfig) : String :=
  let text := optionText Text.quoted
  let path := optionText quotedPath
  let fields := [("access_key", text c.accessKey), ("secret_key", redacted c.secretKey),
    ("session_token", redacted c.sessionToken), ("region", text c.region),
    ("profile", text c.profile), ("filename", path c.filename), ("role_arn", text c.roleArn),
    ("role_session_name", text c.roleSessionName),
    ("web_identity_token_file", path c.webIdentityTokenFile),
    ("sts_endpoint", text c.stsEndpoint), ("iam_endpoint", text c.iamEndpoint),
    ("max_retries", toString c.maxRetries),
    ("allow_instance_metadata", toString c.allowInstanceMetadata)]
  "CredentialsConfig \x7b " ++ ", ".intercalate (fields.map fun f => f.1 ++ ": " ++ f.2) ++ " \x7d"

/-! ### Sources -/

/-- A variable that is set to some text. -/
def given? (env : Variables) (name : String) : Option String :=
  (env name).filter (· ≠ "")

def defaultSessionName (now : Int) : String :=
  "keel-" ++ toString now

def sessionName (now : Int) (c : CredentialsConfig) : String :=
  c.roleSessionName.getD (defaultSessionName now)

/-- The web identity: each part from the configuration, else from a variable. Without a token file or a
role there is none; a session has a name made from the clock's seconds by default. -/
def webIdentity? (env : Variables) (now : Int) (c : CredentialsConfig) : Option WebIdentity := do
  let tokenFile ← c.webIdentityTokenFile.or (given? env "AWS_WEB_IDENTITY_TOKEN_FILE")
  let roleArn ← c.roleArn.or (given? env "AWS_ROLE_ARN")
  let session := (c.roleSessionName.or (given? env "AWS_ROLE_SESSION_NAME")).getD
    (defaultSessionName now)
  pure ⟨tokenFile, roleArn, session⟩

/-- The sources in the order in which they are tried. -/
def sources (env : Variables) (c : CredentialsConfig) :
    Except CredentialsError (List CredentialSource) :=
  match c.checkKeys with
  | .error e => .error e
  | .ok () => .ok (
      (if c.hasStaticKeys then [.static] else []) ++ [.environment, .profile] ++
      (if (c.webIdentity? env 0).isSome then [.webIdentity] else []) ++ [.containerMetadata] ++
      (if c.allowInstanceMetadata then [.instanceMetadata] else []))

/-! ### Settings of clients -/

def defaultRegion : String := "us-east-1"

/-- The region from the configuration, else from a variable, else the default one; empty ones do not
count. -/
def resolveRegion (env : Variables) (c : CredentialsConfig) : String :=
  (((c.region.filter (· ≠ "")).or (given? env "AWS_REGION")).or
    (given? env "AWS_DEFAULT_REGION")).getD defaultRegion

/-- How often a request is made at most. -/
def maxAttempts (c : CredentialsConfig) : Nat :=
  min (c.maxRetries + 1) Integer.u32Max

end CredentialsConfig

end ServiceKit
