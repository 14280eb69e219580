import ServiceKit.Credentials.Config
import ServiceKit.Credentials.Profiles

namespace ServiceKit

/-- A key pair, with the token of its session if it is a temporary one. -/
structure AccessKeys where
  accessKey : String
  secretKey : String
  sessionToken : Option String := none
deriving DecidableEq, Repr

/-- Whose credentials they are: those of a link of the chain, or those of a role that was assumed with
such credentials. -/
inductive CredentialOrigin where
  | link (source : CredentialSource)
  | webIdentity (role : String)
  | assumed (role : String)
deriving DecidableEq, Repr

structure Credentials where
  keys : AccessKeys
  origin : CredentialOrigin
deriving DecidableEq, Repr

/-- What asking one source gives: keys, nothing to go by, or a fault that ends the search. -/
inductive LinkAnswer where
  | found (keys : AccessKeys)
  | notLoaded
  | failed
deriving DecidableEq, Repr

/-- All that surrounds a process and can give credentials. -/
structure CredentialWorld where
  env : CredentialsConfig.Variables
  files : FileSystem
  now : Int
  container : LinkAnswer
  instanceService : LinkAnswer
  /-- What a profile gets, by its name, from the service or program that it sends to. -/
  profileService : Profiles → String → LinkAnswer := fun _ _ => .failed
  /-- Exchanges a token for the keys of a role. -/
  exchange : WebIdentity → LinkAnswer
  /-- Assumes a role in a named session. -/
  assumeRole : AccessKeys → String → String → Except ServiceFault AccessKeys

namespace CredentialWorld

/-- The world in which no service can be reached. -/
def offline (env : CredentialsConfig.Variables) (files : FileSystem) (now : Int) :
    CredentialWorld where
  env
  files
  now
  container := .notLoaded
  instanceService := .notLoaded
  exchange _ := .failed
  assumeRole _ _ _ := .error .unreachable

end CredentialWorld

namespace CredentialsConfig

/-- A variable that is set to more than blanks. -/
def nonBlank? (env : Variables) (name : String) : Option String :=
  (env name).filter fun v => Text.trim v ≠ ""

def environmentKeys (env : Variables) : LinkAnswer :=
  let secret := (nonBlank? env "AWS_SECRET_ACCESS_KEY").or (nonBlank? env "SECRET_ACCESS_KEY")
  match nonBlank? env "AWS_ACCESS_KEY_ID", secret with
  | some access, some secret =>
    .found ⟨access, secret, (nonBlank? env "AWS_SESSION_TOKEN").map Text.trim⟩
  | _, _ => .notLoaded

/-- The file that a variable names. One that is not there is empty. -/
def defaultFile? (w : CredentialWorld) (kind : Profiles.FileKind) (name : String)
    (ps : Profiles) : Option Profiles :=
  match (w.env name).map w.files.readText with
  | some (.ok text) => Profiles.readFile? kind text ps
  | some (.error .notUtf8) => none
  | _ => some ps

/-- The profiles of the usual files; a configured file, which must be there, takes the place of the one
for credentials. -/
def profiles? (w : CredentialWorld) (c : CredentialsConfig) : Option Profiles :=
  (defaultFile? w .settings "AWS_CONFIG_FILE" []).bind fun ps =>
    match c.filename with
    | none => defaultFile? w .credentials "AWS_SHARED_CREDENTIALS_FILE" ps
    | some path =>
      match w.files.readText path with
      | .error _ => none
      | .ok text => Profiles.readFile? .credentials text ps

/-- Settings that send a profile to a service or a program for its keys. -/
def isRemote (name : String) : Bool :=
  name ∈ ["role_arn", "web_identity_token_file", "credential_process", "credential_source"] ||
    "sso_".toList.isPrefixOf name.toList

/-- The keys that a profile holds itself, or is sent for. -/
def profileKeys (w : CredentialWorld) (c : CredentialsConfig) : LinkAnswer :=
  let name := (c.profile.or (w.env "AWS_PROFILE")).getD "default"
  match profiles? w c with
  | none => .failed
  | some ps =>
    match Json.lookup name ps with
    | none => .notLoaded
    | some fields =>
      if fields.any fun f => isRemote f.1 then w.profileService ps name
      else
        match Json.lookup "aws_access_key_id" fields, Json.lookup "aws_secret_access_key" fields with
        | some access, some secret =>
          .found ⟨access, secret, Json.lookup "aws_session_token" fields⟩
        | none, none =>
          if (Json.lookup "aws_session_token" fields).isSome then .failed else .notLoaded
        | _, _ => .failed

def staticKeys (c : CredentialsConfig) : LinkAnswer :=
  match c.accessKey, c.secretKey with
  | some access, some secret => .found ⟨access, secret, c.sessionToken⟩
  | _, _ => .failed

/-- What a source answers. -/
def ask (w : CredentialWorld) (c : CredentialsConfig) : CredentialSource → LinkAnswer
  | .static => c.staticKeys
  | .environment => environmentKeys w.env
  | .profile => profileKeys w c
  | .webIdentity =>
    match c.webIdentity? w.env w.now with
    | some identity => w.exchange identity
    | none => .notLoaded
  | .containerMetadata => w.container
  | .instanceMetadata => w.instanceService

/-- Whose the keys of a source are. -/
def originOf (w : CredentialWorld) (c : CredentialsConfig) : CredentialSource → CredentialOrigin
  | .webIdentity =>
    match c.webIdentity? w.env w.now with
    | some identity => .webIdentity identity.roleArn
    | none => .link .webIdentity
  | source => .link source

/-- The first source with keys; the search goes on only past sources that have nothing to go by. -/
def search (w : CredentialWorld) (c : CredentialsConfig) : List CredentialSource → Option Credentials
  | [] => none
  | source :: rest =>
    match ask w c source with
    | .found keys => some ⟨keys, originOf w c source⟩
    | .notLoaded => search w c rest
    | .failed => none

/-- The credentials in use: those of the chain, or of the configured role assumed with them. A role
that is reached by a web identity is not assumed again. -/
def credentials (w : CredentialWorld) (c : CredentialsConfig) :
    Except CredentialsError (Option Credentials) :=
  match c.sources w.env with
  | .error e => .error e
  | .ok sources =>
    .ok (match search w c sources, c.roleArn with
      | none, _ => none
      | some base, none => some base
      | some base, some role =>
        if .webIdentity ∈ sources then some base
        else match w.assumeRole base.keys role (c.sessionName w.now) with
          | .ok keys => some ⟨keys, .assumed role⟩
          | .error _ => none)

end CredentialsConfig

end ServiceKit
