import ServiceKit.Credentials.Chain
import ServiceKit.Duration

namespace ServiceKit

structure CallerIdentity where
  arn : String := ""
  account : String := ""
  userId : String := ""
deriving DecidableEq, Repr

/-- A key made by a rotation. -/
structure RotatedKey where
  accessKeyId : String
  secretAccessKey : String
  userName : String
deriving DecidableEq, Repr

namespace RotatedKey

/-- The key as logs show it, without its secret. -/
def debugText (k : RotatedKey) : String :=
  "RotatedKey \x7b access_key_id: " ++ Text.quoted k.accessKeyId ++
    ", secret_access_key: \"<redacted>\", user_name: " ++ Text.quoted k.userName ++ " \x7d"

end RotatedKey

/-- How the account services answer requests that are signed with given keys. A result may be empty. -/
structure AccountServices where
  getUser : AccessKeys → Except ServiceFault (Option String)
  createAccessKey : AccessKeys → String → Except ServiceFault (Option RotatedKey)
  deleteAccessKey : AccessKeys → String → String → Except ServiceFault Unit
  /-- The answer to the request of a given number. -/
  callerIdentity : AccessKeys → Nat → Except ServiceFault CallerIdentity

namespace AccountServices

/-- The services to which no connection comes about. -/
def unreachable : AccountServices where
  getUser _ := .error .unreachable
  createAccessKey _ _ := .error .unreachable
  deleteAccessKey _ _ _ := .error .unreachable
  callerIdentity _ _ := .error .unreachable

end AccountServices

/-- How time goes by while a new key is waited for. -/
structure Stopwatch where
  /-- The clock's reading when the wait begins. -/
  start : Duration := .zero
  /-- How long it takes from one pause to the answer to the request of a given number. -/
  delay : Nat → Duration := fun _ => .zero

namespace Stopwatch

/-- The first reading that a clock cannot show, since it counts seconds by a signed 64-bit number. -/
def limit : Nat := 0x8000000000000000 * Duration.nanosPerSecond

/-- The pause before a new key is asked about again. -/
def interval : Duration :=
  Duration.ofSecs 1

/-- The part of a wait that is over after a further answer and the pause behind it. -/
def afterPause (watch : Stopwatch) (elapsed n : Nat) : Nat :=
  elapsed + (watch.delay n).total + interval.total

/-- Each pause brings the end of the wait nearer. -/
theorem remaining_lt {watch : Stopwatch} {wait elapsed n : Nat}
    (within : watch.afterPause elapsed n < wait) :
    wait - watch.afterPause elapsed n < wait - elapsed := by
  have positive : 0 < interval.total := by decide
  unfold afterPause at *
  generalize interval.total = pause at *
  omega

end Stopwatch

/-- A request to the account services, with its answer. It is signed with the keys of its sender, who
without keys sends nothing and is told that nothing can be reached. -/
inductive AccountCall where
  | getUser (signer : Option AccessKeys) (answer : Except ServiceFault (Option String))
  | createAccessKey (signer : Option AccessKeys) (user : String)
      (answer : Except ServiceFault (Option RotatedKey))
  | callerIdentity (signer : Option AccessKeys) (answer : Except ServiceFault CallerIdentity)
  | deleteAccessKey (signer : Option AccessKeys) (id user : String) (answer : Except ServiceFault Unit)

/-- A result together with the requests made on the way to it, in order. -/
structure Traced (ε α : Type) where
  calls : List AccountCall
  result : Except ε α

namespace Traced

def bind (x : Traced ε α) (f : α → Traced ε β) : Traced ε β :=
  match x.result with
  | .error e => ⟨x.calls, .error e⟩
  | .ok a => ⟨x.calls ++ (f a).calls, (f a).result⟩

instance : Monad (Traced ε) where
  pure a := ⟨[], .ok a⟩
  bind := bind

def fail (e : ε) : Traced ε α :=
  ⟨[], .error e⟩

def mapError (f : ε → δ) (x : Traced ε α) : Traced δ α :=
  ⟨x.calls, x.result.mapError f⟩

/-- Puts requests in front that were made before. -/
def after (calls : List AccountCall) (x : Traced ε α) : Traced ε α :=
  ⟨calls ++ x.calls, x.result⟩

@[simp]
theorem calls_after (calls : List AccountCall) (x : Traced ε α) : (x.after calls).calls = calls ++ x.calls :=
  rfl

@[simp]
theorem result_after (calls : List AccountCall) (x : Traced ε α) : (x.after calls).result = x.result :=
  rfl

@[simp]
theorem calls_mapError (f : ε → δ) (x : Traced ε α) : (x.mapError f).calls = x.calls :=
  rfl

@[simp]
theorem result_mapError (f : ε → δ) (x : Traced ε α) : (x.mapError f).result = x.result.mapError f :=
  rfl

end Traced

namespace CredentialsConfig

/-- Makes one request, which `record` notes. -/
def send (signer : Option AccessKeys) (answer : AccessKeys → Except ServiceFault α)
    (record : Option AccessKeys → Except ServiceFault α → AccountCall) : Traced ServiceFault α :=
  let answer := match signer with
    | some keys => answer keys
    | none => .error .unreachable
  ⟨[record signer answer], answer⟩

/-- The keys with which requests are signed, if there are any. -/
def signer (w : CredentialWorld) (c : CredentialsConfig) : Except CredentialsError (Option AccessKeys) :=
  (c.credentials w).map fun credentials => credentials.map (·.keys)

/-- Asks which user the sender's keys belong to. -/
def sendUser (s : AccountServices) (signer : Option AccessKeys) : Traced ServiceFault (Option String) :=
  send signer s.getUser .getUser

def sendCreate (s : AccountServices) (signer : Option AccessKeys) (user : String) :
    Traced ServiceFault (Option RotatedKey) :=
  send signer (fun keys => s.createAccessKey keys user) fun signer => .createAccessKey signer user

/-- Asks who the sender is. -/
def sendIdentity (s : AccountServices) (signer : Option AccessKeys) (n : Nat) :
    Traced ServiceFault CallerIdentity :=
  send signer (fun keys => s.callerIdentity keys n) .callerIdentity

def sendDelete (s : AccountServices) (signer : Option AccessKeys) (id user : String) :
    Traced ServiceFault Unit :=
  send signer (fun keys => s.deleteAccessKey keys id user) fun signer => .deleteAccessKey signer id user

def callerIdentity (w : CredentialWorld) (s : AccountServices) (c : CredentialsConfig) :
    Except CredentialsError CallerIdentity :=
  match c.signer w with
  | .error e => .error e
  | .ok signer => (sendIdentity s signer 0).result.mapError (.service .callerIdentity)

/-- What a rotation asked of the account services, the configuration after it, and how it went. -/
structure Rotation where
  calls : List AccountCall
  config : CredentialsConfig
  result : Except (Stop CredentialsError) RotatedKey

/-- Asks about a new key until it is accepted. After a refusal there is a pause, unless it would last to
the end of the wait; `elapsed` is the part of the wait that is over, and `n` the number of refusals. -/
def verify (s : AccountServices) (watch : Stopwatch) (wait : Duration) (signer : Option AccessKeys)
    (elapsed n : Nat) : Traced CredentialsError Unit :=
  let asked := sendIdentity s signer n
  match asked.result with
  | .ok _ => ⟨asked.calls, .ok ()⟩
  | .error fault =>
    if watch.afterPause elapsed n < wait.total then
      (verify s watch wait signer (watch.afterPause elapsed n) (n + 1)).after asked.calls
    else ⟨asked.calls, .error (.keyNotAccepted fault)⟩
termination_by wait.total - elapsed
decreasing_by exact Stopwatch.remaining_lt (by assumption)

/-- The last part of a rotation, with the new key: it is waited for, and then the old one is deleted. A
wait that the clock cannot show the end of is not begun. -/
def finishRotation (w : CredentialWorld) (s : AccountServices) (watch : Stopwatch) (wait : Duration)
    (oldKey user : String) (c : CredentialsConfig) : Traced (Stop CredentialsError) Unit :=
  match c.signer w with
  | .error e => .fail (.error e)
  | .ok signer =>
    if watch.start.total + wait.total < Stopwatch.limit then do
      (verify s watch wait signer 0 0).mapError .error
      (sendDelete s signer oldKey user).mapError fun fault => .error (.service .deleteAccessKey fault)
    else .fail (.crash .instantOutOfRange)

/-- The configuration with a new key, which belongs to no session. -/
def withKey (key : RotatedKey) (c : CredentialsConfig) : CredentialsConfig :=
  { c with accessKey := some key.accessKeyId, secretKey := some key.secretAccessKey
           sessionToken := none }

/-- The first part of a rotation: a new key is made for the user that the old one belongs to. -/
def createKey (s : AccountServices) (signer : Option AccessKeys) : Traced CredentialsError RotatedKey := do
  let user ← (sendUser s signer).mapError (.service .getUser)
  match user with
  | none => .fail .noUser
  | some user =>
    let key ← (sendCreate s signer user).mapError (.service .createAccessKey)
    match key with
    | none => .fail .noKey
    | some key => pure key

/-- Takes a new key into use, or else deletes it again, as far as that is possible. -/
def settle (s : AccountServices) (signer : Option AccessKeys) (c : CredentialsConfig) (key : RotatedKey)
    (calls : List AccountCall) : Except (Stop CredentialsError) Unit → Rotation
  | .ok () => ⟨calls, c.withKey key, .ok key⟩
  | .error (.crash crash) => ⟨calls, c, .error (.crash crash)⟩
  | .error (.error e) =>
    ⟨calls ++ (sendDelete s signer key.accessKeyId key.userName).calls, c, .error (.error e)⟩

/-- Puts a new key in place of the static one. If the new key does not come into use, the configuration
stays as it was. -/
def rotate (w : CredentialWorld) (s : AccountServices) (watch : Stopwatch) (wait : Duration)
    (c : CredentialsConfig) : Rotation :=
  match c.accessKey, c.secretKey with
  | some oldKey, some _ =>
    match c.signer w with
    | .error e => ⟨[], c, .error (.error e)⟩
    | .ok signer =>
      let made := createKey s signer
      match made.result with
      | .error e => ⟨made.calls, c, .error (.error e)⟩
      | .ok key =>
        let finished := (c.withKey key).finishRotation w s watch wait oldKey key.userName
        settle s signer c key (made.calls ++ finished.calls) finished.result
  | _, _ => ⟨[], c, .error (.error .noKeysToRotate)⟩

/-- How long a new key is waited for unless told otherwise. -/
def defaultWait : Duration :=
  Duration.ofSecs 10

end CredentialsConfig

end ServiceKit
