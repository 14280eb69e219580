import ServiceKit.Config.Error
import ServiceKit.Hcl.Decode
import ServiceKit.Value.Address
import ServiceKit.Value.Duration

namespace ServiceKit

/-- The decoded fields of a block, and the name under which errors speak of it. -/
structure Stanza where
  path : String
  fields : List (String × Json)
deriving Repr

namespace Stanza

abbrev Read (α : Type) := Except (Stop ConfigError) α

def ofBody (path : String) (body : Hcl.Body) : Read Stanza :=
  match Hcl.Body.fields? body with
  | some fields => .ok ⟨path, fields⟩
  | none => .error (.error ⟨.syntaxError, some path⟩)

def keyPath (s : Stanza) (key : String) : String :=
  s.path ++ "." ++ key

def invalid (s : Stanza) (key : String) (fault : ConfigFault) : Stop ConfigError :=
  ConfigError.invalid (s.keyPath key) fault

/-- The value of a key; null counts as absent. -/
def get? (s : Stanza) (key : String) : Option Json :=
  (Json.lookup key s.fields).filter (!·.isNull)

def valueError (s : Stanza) (key : String) (e : ValueError) : ConfigError :=
  ⟨.value e, some (s.keyPath key)⟩

/-- Reads the value of a key with a reader that refuses some values. -/
def read (s : Stanza) (key : String) (f : Json → Except ValueFault α) : Read (Option α) :=
  match s.get? key with
  | none => .ok none
  | some v =>
    match f v with
    | .ok a => .ok (some a)
    | .error fault => .error (.error (s.valueError key (.invalid fault)))

def string (s : Stanza) (key : String) : Option String :=
  (s.get? key).map Value.plainText

def lowercase (s : Stanza) (key : String) : Option String :=
  (s.string key).map fun t => Text.toLower (Text.trim t)

def bool (s : Stanza) (key : String) : Read (Option Bool) :=
  s.read key Value.readBool

def flag (s : Stanza) (key : String) : Read Bool :=
  (s.bool key).map (·.getD false)

def int (s : Stanza) (key : String) : Read (Option Int) :=
  s.read key Value.readInt

def strings (s : Stanza) (key : String) : Read (List String) :=
  (s.read key Value.readStrings).map (·.getD [])

def duration (s : Stanza) (key : String) : Read (Option Duration) :=
  match s.get? key with
  | none => .ok none
  | some v =>
    match Value.readDuration v with
    | .ok d => .ok (some d)
    | .error stop => .error (stop.map fun fault => s.valueError key (.invalid fault))

def cidrs (s : Stanza) (key : String) : Read (List Cidr) :=
  match s.get? key with
  | none => .ok []
  | some v => (Value.readCidrs v).mapError fun e => .error (s.valueError key e)

/-- The fields of an object; of a list, those of its first object. -/
def object (s : Stanza) (key : String) : Option (List (String × Json)) :=
  match s.get? key with
  | some (.obj fields) => some fields
  | some (.arr items) =>
    items.findSome? fun
      | .obj fields => some fields
      | _ => none
  | _ => none

def nested (s : Stanza) (key : String) : Option Stanza :=
  (s.object key).map fun fields => ⟨s.keyPath key, fields⟩

/-- The keys that are not settings, in order. -/
def unknown (s : Stanza) (settings : List String) : List String :=
  (s.fields.map Prod.fst).filter fun k => !settings.contains k

def warnUnknown (s : Stanza) (settings : List String) : Checked Unit :=
  Checked.warn ((s.unknown settings).map (.unknownKey s.path))

end Stanza

namespace Hcl.Body

/-- The blocks of a name, of which there may be at most `limit`. -/
def blocksUpTo (b : Body) (name : String) (limit : Nat) : Except (Stop ConfigError) (List Block) :=
  let found := b.blocksNamed name
  if found.length ≤ limit then .ok found
  else .error (ConfigError.invalid name (.blockLimit name limit found.length))

end Hcl.Body

namespace Hcl.Block

/-- The one label of a block in lower case, if it has any. -/
def label? (b : Block) (path : String) : Except (Stop ConfigError) (Option String) :=
  match b.labels with
  | [] => .ok none
  | [label] => .ok (some (Text.toLower (Text.trim label)))
  | more => .error (ConfigError.invalid path (.labels more.length))

end Hcl.Block

end ServiceKit
