import ServiceKit.Value.Error

namespace ServiceKit

/-- What is wrong with the structure of a stanza. -/
inductive ConfigFault where
  | blockLimit (name : String) (limit found : Nat)
  | labels (found : Nat)
  | sealWithoutType (block : String)
  | entropySource (source : String)
  | entropyMode (mode : String)
  | noEntropyMode
  | listenerType (kind : String)
  | noListenerType
  | requestSize (e : ValueError)
  | requestSizeTooLarge (text : String)
  | tlsVersion (version : String)
  | clientCertConflict
  | proxyBehavior (behavior : String)
  | proxyWithoutAddresses
  | negativeHopSkips (n : Int)
  | unixWithoutAddress
  | mixedOrigins
  | headerTable (status : String) (v : Json)
  | negativeCardinality
  | filterEntry (entry : String)
deriving Repr

namespace ConfigFault

def message : ConfigFault → String
  | blockLimit name limit found =>
    "only " ++ toString limit ++ " " ++ name ++ (if limit = 1 then " block" else " blocks") ++
      " may be defined, found " ++ toString found
  | labels found => "expected a single label, found " ++ toString found
  | sealWithoutType block => block ++ " type must be specified"
  | entropySource source =>
    "unsupported entropy source " ++ Text.quoted source ++ ", only \"seal\" is supported"
  | entropyMode mode => "unknown entropy mode " ++ Text.quoted mode
  | noEntropyMode => "entropy mode must be specified"
  | listenerType kind => "unsupported listener type " ++ Text.quoted kind
  | noListenerType => "listener type must be specified"
  | requestSize e => e.message
  | requestSizeTooLarge text => Text.quoted text ++ " is too large"
  | tlsVersion version =>
    "invalid value " ++ Text.quoted version ++
      ", expected one of [\"tls10\", \"tls11\", \"tls12\", \"tls13\"]"
  | clientCertConflict =>
    "'tls_disable_client_certs' and 'tls_require_and_verify_client_cert' are mutually exclusive"
  | proxyBehavior behavior => "unsupported behavior " ++ Text.quoted behavior
  | proxyWithoutAddresses =>
    "proxy_protocol_behavior only admits authorized addresses but none are configured"
  | negativeHopSkips n => "cannot be negative but was " ++ toString n
  | unixWithoutAddress => "unix listeners require a socket path"
  | mixedOrigins => "must only contain a wildcard or only non-wildcard values"
  | headerTable status v =>
    "headers for " ++ Text.quoted status ++ " must be an object, got " ++ v.render
  | negativeCardinality => "must not be negative"
  | filterEntry entry => "entry " ++ Text.quoted entry ++ " must start with '+' or '-'"

end ConfigFault

inductive ConfigCause where
  | syntaxError
  | unreadable (fault : OsFault)
  | value (e : ValueError)
  | invalid (fault : ConfigFault)
deriving Repr

/-- Why a configuration is refused, and the stanza and key that are to blame. -/
structure ConfigError where
  cause : ConfigCause
  context : Option String
deriving Repr

namespace ConfigError

def invalid (place : String) (fault : ConfigFault) : Stop ConfigError :=
  .error ⟨.invalid fault, some place⟩

/-- The text of the error. What is wrong with the form of a document is not told. -/
def message (e : ConfigError) : String :=
  let (lead, detail) := match e.cause with
    | .syntaxError => ("Parse error", "")
    | .unreadable fault => ("I/O error", fault.message)
    | .value e => ("Invalid value", e.message)
    | .invalid fault => ("Invalid configuration", fault.message)
  lead ++ inContext e.context ++ ": " ++ detail

end ConfigError

/-- What a reader reports although it goes on, or before it stops. -/
inductive Warning where
  | unknownKey (stanza key : String)
  | rejectedFile (path : String)
deriving DecidableEq, Repr

/-- What is reported, as named texts. -/
def Warning.fields : Warning → List (String × String)
  | unknownKey stanza key =>
    [("message", "Ignoring unknown configuration key"), ("stanza", stanza), ("key", key)]
  | rejectedFile path => [("message", "Rejected configuration file"), ("path", path)]

/-- A result together with the warnings given on the way to it, in order. -/
structure Checked (α : Type) where
  warnings : List Warning
  result : Except (Stop ConfigError) α

namespace Checked

def pure (a : α) : Checked α :=
  ⟨[], .ok a⟩

def bind (x : Checked α) (f : α → Checked β) : Checked β :=
  match x.result with
  | .error e => ⟨x.warnings, .error e⟩
  | .ok a => ⟨x.warnings ++ (f a).warnings, (f a).result⟩

instance : Monad Checked where
  pure := pure
  bind := bind

instance : MonadLift (Except (Stop ConfigError)) Checked where
  monadLift r := ⟨[], r⟩

def fail (stop : Stop ConfigError) : Checked α :=
  ⟨[], .error stop⟩

def warn (ws : List Warning) : Checked Unit :=
  ⟨ws, .ok ()⟩

/-- Runs a reader on each member of a list, in order, until one fails. -/
def forEach (f : α → Checked β) : List α → Checked (List β)
  | [] => pure []
  | a :: rest => bind (f a) fun b => bind (forEach f rest) fun bs => pure (b :: bs)

end Checked

end ServiceKit
