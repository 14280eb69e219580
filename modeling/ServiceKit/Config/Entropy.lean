import ServiceKit.Config.Stanza

namespace ServiceKit

inductive EntropyMode where
  | augmentation
deriving DecidableEq, Repr

namespace EntropyMode

def text : EntropyMode → String
  | augmentation => "augmentation"

def ofText? (s : String) : Option EntropyMode :=
  if Text.toLower s = "augmentation" then some augmentation else none

end EntropyMode

/-- How a seal's randomness is used. -/
structure Entropy where
  mode : EntropyMode
  sealName : Option String
deriving DecidableEq, Repr

namespace Entropy

def settings : List String := ["mode", "seal_name"]

def readMode (s : Stanza) : Stanza.Read EntropyMode :=
  match s.lowercase "mode" with
  | none => .error (s.invalid "mode" .noEntropyMode)
  | some text =>
    match EntropyMode.ofText? text with
    | some mode => .ok mode
    | none => .error (s.invalid "mode" (.entropyMode text))

def ofBody (body : Hcl.Body) : Checked (Option Entropy) := do
  match ← body.blocksUpTo "entropy" 1 with
  | [] => return none
  | b :: _ =>
    let label ← b.label? "entropy"
    let source := label.getD "seal"
    if source ≠ "seal" then
      Checked.fail (ConfigError.invalid "entropy" (.entropySource source))
    let s ← Stanza.ofBody "entropy" b.body
    let mode ← readMode s
    s.warnUnknown settings
    return some ⟨mode, s.string "seal_name"⟩

end Entropy

end ServiceKit
