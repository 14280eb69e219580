import ServiceKit.Config.Stanza
import ServiceKit.Proofs.Hcl.Masking
import ServiceKit.Proofs.Hcl.Settings
import ServiceKit.Proofs.Outcome

namespace ServiceKit

namespace Hcl.Body
variable {body : Body} {name : String} {limit : Nat}

theorem blocksUpTo_ok {bs : List Block} (ran : blocksUpTo body name limit = .ok bs) :
    bs = body.blocksNamed name ∧ bs.length ≤ limit := by
  unfold blocksUpTo at ran
  dsimp only at ran
  split_ifs at ran with few
  cases ran
  exact ⟨rfl, few⟩

/-- Of a block that there may be once there is none, or one. -/
theorem blocksUpTo_one {bs : List Block} (ran : blocksUpTo body name 1 = .ok bs) :
    bs = [] ∧ body.blocksNamed name = [] ∨ ∃ b, bs = [b] ∧ body.blocksNamed name = [b] := by
  obtain ⟨rfl, few⟩ := blocksUpTo_ok ran
  match body.blocksNamed name, few with
  | [], _ => exact Or.inl ⟨rfl, rfl⟩
  | [b], _ => exact Or.inr ⟨b, rfl, rfl⟩

theorem blocksUpTo_of_le (few : (body.blocksNamed name).length ≤ limit) :
    blocksUpTo body name limit = .ok (body.blocksNamed name) := by
  unfold blocksUpTo
  rw [if_pos few]

theorem blocksUpTo_error {stop : Stop ConfigError} (failed : blocksUpTo body name limit = .error stop) :
    limit < (body.blocksNamed name).length ∧
      stop = ConfigError.invalid name (.blockLimit name limit (body.blocksNamed name).length) := by
  unfold blocksUpTo at failed
  dsimp only at failed
  split_ifs at failed with few
  cases failed
  exact ⟨Nat.lt_of_not_le few, rfl⟩

end Hcl.Body

namespace Value

theorem readBool_nested {v : Json} (nested : v.Nested) (b : Bool) : readBool v ≠ .ok b := by
  intro ran
  cases nested <;> cases ran

theorem readStrings_nested {v : Json} (nested : v.Nested) (texts : List String) :
    readStrings v ≠ .ok texts := by
  intro ran
  cases nested with
  | obj => cases ran
  | arr inside =>
    obtain ⟨entries, ran, -⟩ := Outcome.map_ok ran
    obtain ⟨entry, -, read⟩ := Outcome.exists_of_mem_right (Outcome.mapM_ok ran).flip inside
    cases read

end Value

namespace Stanza

/-- A stanza holds the fields of its body, under the name it was given. -/
theorem ofBody_ok {path : String} {body : Hcl.Body} {s : Stanza} (read : ofBody path body = .ok s) :
    s.path = path ∧ Hcl.Body.fields? body = some s.fields := by
  unfold ofBody at read
  cases found : Hcl.Body.fields? body with
  | none =>
    rw [found] at read
    cases read
  | some fields =>
    rw [found] at read
    cases read
    exact ⟨rfl, rfl⟩

/-- A stanza of attributes has the settings that its body makes. -/
theorem get?_ofBody {path : String} {body : Hcl.Body} {s : Stanza}
    (read : ofBody path (Hcl.Body.withoutBlocks body) = .ok s) (key : String) :
    s.get? key = body.setting? key :=
  Hcl.Body.filter_lookup_eq_setting? (ofBody_ok read).2 key

/-- The unknown keys of a stanza of attributes, each of which it names once. -/
theorem unknown_ofBody {path : String} {body : Hcl.Body} {s : Stanza}
    (read : ofBody path (Hcl.Body.withoutBlocks body) = .ok s) (settings : List String) :
    (s.unknown settings).Nodup ∧ ∀ key, key ∈ s.unknown settings ↔
      key ∈ (Hcl.Body.attributes body).map Prod.fst ∧ key ∉ settings := by
  obtain ⟨once, names⟩ := Hcl.Body.names_of_fields? (ofBody_ok read).2
  refine ⟨once.filter _, fun key => ?_⟩
  rw [unknown, List.mem_filter, names]
  simp

variable {α : Type} {key : String} {f : Json → Except ValueFault α}

/-- What is read of a key is nothing where it is absent, and else what the reader makes of its value. -/
theorem read_ok {s : Stanza} {found : Option α} (ran : s.read key f = .ok found) :
    (s.get? key = none ∧ found = none) ∨ ∃ v a, s.get? key = some v ∧ f v = .ok a ∧ found = some a := by
  unfold Stanza.read at ran
  cases atKey : s.get? key with
  | none =>
    rw [atKey] at ran
    cases ran
    exact Or.inl ⟨rfl, rfl⟩
  | some v =>
    rw [atKey] at ran
    dsimp only at ran
    cases result : f v with
    | error fault =>
      rw [result] at ran
      cases ran
    | ok a =>
      rw [result] at ran
      cases ran
      exact Or.inr ⟨v, a, rfl, result, rfl⟩

theorem read_of_none {s : Stanza} (missing : s.get? key = none) : s.read key f = .ok none := by
  rw [read, missing]

theorem read_of_some {s : Stanza} {v : Json} {a : α} (found : s.get? key = some v) (accepted : f v = .ok a) :
    s.read key f = .ok (some a) := by
  rw [read, found]
  dsimp only
  rw [accepted]

/-- What one stanza reads of a key goes before what another one reads. -/
theorem read_or {s t u : Stanza} {a b : Option α} (joined : u.get? key = (t.get? key).or (s.get? key))
    (ran : s.read key f = .ok a) (ran' : t.read key f = .ok b) : u.read key f = .ok (b.or a) := by
  rcases read_ok ran' with ⟨missing, rfl⟩ | ⟨v, x, found, accepted, rfl⟩
  · rw [missing, Option.none_or] at joined
    rcases read_ok ran with ⟨missing, rfl⟩ | ⟨v, x, found, accepted, rfl⟩
    · exact read_of_none (joined.trans missing)
    · exact read_of_some (joined.trans found) accepted
  · rw [found, Option.some_or] at joined
    exact read_of_some joined accepted

/-- A duration is read like any other value, but that its reader can crash. -/
theorem duration_agree_read (s : Stanza) (key : String) :
    Outcome.Agree (s.duration key)
      (s.read key fun v => (Value.readDuration v).mapError fun _ => .duration v) := by
  unfold duration read
  cases s.get? key with
  | none => rfl
  | some v =>
    dsimp only
    cases Value.readDuration v <;> rfl

theorem duration_ok {s : Stanza} {found : Option Duration} (ran : s.duration key = .ok found) :
    (s.get? key = none ∧ found = none) ∨
      ∃ v d, s.get? key = some v ∧ Value.readDuration v = .ok d ∧ found = some d := by
  rcases read_ok ((duration_agree_read s key).ok ran) with missing | ⟨v, d, found, accepted, same⟩
  · exact Or.inl missing
  · exact Or.inr ⟨v, d, found, Outcome.mapError_ok accepted, same⟩

theorem duration_or {s t u : Stanza} {a b : Option Duration}
    (joined : u.get? key = (t.get? key).or (s.get? key)) (ran : s.duration key = .ok a)
    (ran' : t.duration key = .ok b) : u.duration key = .ok (b.or a) :=
  Outcome.Agree.ok (duration_agree_read u key).symm
    (read_or joined ((duration_agree_read s key).ok ran)
      ((duration_agree_read t key).ok ran'))

/-- A setting that is there was read from the value under its key. -/
theorem read_some {s : Stanza} {a : α} (ran : s.read key f = .ok (some a)) :
    ∃ v, s.get? key = some v ∧ f v = .ok a := by
  rcases read_ok ran with ⟨-, missing⟩ | ⟨v, b, found, read, same⟩
  · cases missing
  · cases same
    exact ⟨v, found, read⟩

/-- In stanzas that are alike a shown key has one value, or a nested one. -/
theorem get?_alike {s t : Stanza} {shown : List String} (isShown : key ∈ shown)
    (fields : List.Forall₂ (Fieldwise (Alike shown Json.Nested)) s.fields t.fields) :
    s.get? key = t.get? key ∨ ∃ v, v.Nested ∧ s.get? key = some v := by
  have values := Json.lookup_fieldwise key fields
  unfold get?
  generalize Json.lookup key s.fields = left at values ⊢
  generalize Json.lookup key t.fields = right at values ⊢
  cases values with
  | none => exact Or.inl rfl
  | @some v w alike =>
    rcases alike isShown with rfl | ⟨nested, -⟩
    · exact Or.inl rfl
    · refine Or.inr ⟨v, nested, ?_⟩
      cases nested <;> rfl

/-- A shown setting whose reader refuses nested values is the same in stanzas that are alike. -/
theorem read_alike {s t : Stanza} {shown : List String} {a b : Option α} (isShown : key ∈ shown)
    (fields : List.Forall₂ (Fieldwise (Alike shown Json.Nested)) s.fields t.fields)
    (refused : ∀ v : Json, v.Nested → ∀ a, f v ≠ .ok a)
    (ran : s.read key f = .ok a) (ran' : t.read key f = .ok b) : a = b := by
  rcases read_ok ran with ⟨missing, rfl⟩ | ⟨v, x, found, read, rfl⟩
  · rcases get?_alike isShown fields with same | ⟨v, -, found⟩
    · rcases read_ok ran' with ⟨-, rfl⟩ | ⟨w, y, found', -⟩
      · rfl
      · cases missing.symm.trans (same.trans found')
    · cases missing.symm.trans found
  · rcases get?_alike isShown fields with same | ⟨w, nested, found'⟩
    · rcases read_ok ran' with ⟨missing', -⟩ | ⟨w, y, found', read', rfl⟩
      · cases found.symm.trans (same.trans missing')
      · obtain rfl := Option.some.inj (found.symm.trans (same.trans found'))
        exact congrArg some (Except.ok.inj (read.symm.trans read'))
    · obtain rfl := Option.some.inj (found.symm.trans found')
      exact absurd read (refused v nested x)

end Stanza

end ServiceKit
