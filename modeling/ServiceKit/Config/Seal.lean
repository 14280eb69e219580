import ServiceKit.Config.Stanza
import ServiceKit.Value.Indirection

namespace ServiceKit

/-- A key holder. All of its fields that are not settings of every seal go to `config` as text, in
the order of their names. -/
structure Seal where
  kind : String
  purpose : List String
  disabled : Bool
  name : Option String
  priority : Option Int
  config : List (String × String)
deriving DecidableEq, Repr

namespace Seal

def maxBlocks : Nat := 5

def settings : List String := ["purpose", "disabled", "name", "priority"]

def blockNames : List String := ["seal", "kms"]

def hasPurpose (s : Seal) (purpose : String) : Bool :=
  s.purpose.any fun p => Text.toLower p == Text.toLower purpose

def configOf (s : Stanza) : List (String × String) :=
  (s.fields.filter fun f => !settings.contains f.1).map fun f => (f.1, Value.plainText f.2)

def ofBlock (block : String) (index : Nat) (b : Hcl.Block) : Stanza.Read Seal := do
  let path := block ++ "." ++ toString index
  match ← b.label? path with
  | none => throw (ConfigError.invalid path (.sealWithoutType block))
  | some kind =>
    let s ← Stanza.ofBody path b.body
    let purpose ← s.strings "purpose"
    let disabled ← s.flag "disabled"
    let priority ← s.int "priority"
    return {
      kind, disabled, priority
      purpose := purpose.map Text.toLower
      name := s.string "name"
      config := configOf s }

def ofBlocks (body : Hcl.Body) (block : String) : Stanza.Read (List Seal) := do
  let blocks ← body.blocksUpTo block maxBlocks
  blocks.zipIdx.mapM fun b => ofBlock block b.2 b.1

/-- The seals of a document: those of one block name before those of the other. -/
def ofBody (body : Hcl.Body) : Stanza.Read (List Seal) := do
  let seals ← ofBlocks body "seal"
  let kmses ← ofBlocks body "kms"
  return seals ++ kmses

/-- Replaces values by what they stand for, in the order of their names. A failure stops this, and
the values replaced before it stay so. -/
def resolveConfig (resolve : String → Except ValueError String) (kind : String) :
    List (String × String) → List (String × String) × Except ConfigError Unit
  | [] => ([], .ok ())
  | (key, value) :: rest =>
    match resolve value with
    | .error e => ((key, value) :: rest, .error ⟨.value e, some (kind ++ "." ++ key)⟩)
    | .ok text =>
      let (after, result) := resolveConfig resolve kind rest
      ((key, text) :: after, result)

/-- Replaces the values that name variables or files. The seal returned is the one that a failure
leaves behind, too. -/
def resolvePaths (env : String → Option String) (fs : FileSystem) (s : Seal) :
    Seal × Except ConfigError Unit :=
  let (config, result) := resolveConfig (Value.resolve env fs) s.kind s.config
  ({ s with config }, result)

end Seal

end ServiceKit
