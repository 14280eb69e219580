import ServiceKit.Proofs.Config.Listener
import ServiceKit.Proofs.Value.Fractions
import ServiceKit.Proofs.Value.Quoting

namespace ServiceKit

/-! The size limit of request bodies: an integer, or else a capacity, and no limit if it is negative. -/

namespace Value

/-- Whatever is no integer has a text that is none either. -/
theorem readI64_plainText {v : Json} {fault : ValueFault} (refused : readInt v = .error fault) :
    ∃ f, Integer.readI64 (Text.trim (plainText v)) = .error f := by
  have outside {c : Char} (member : c ∈ (plainText v).toList) (blank : Text.isBlank c = false)
      (foreign : ¬ (c.isDigit ∨ c = '+' ∨ c = '-')) :
      ∃ f, Integer.readI64 (Text.trim (plainText v)) = .error f := by
    cases read : Integer.readI64 (Text.trim (plainText v)) with
    | error f => exact ⟨f, rfl⟩
    | ok i => exact absurd (Integer.isDigit_of_readInt read c (Text.mem_trim member blank)) foreign
  cases v with
  | null => exact ⟨_, rfl⟩
  | bool b => cases b <;> exact ⟨_, rfl⟩
  | str s =>
    cases read : Integer.readI64 (Text.trim s) with
    | error f => exact ⟨f, read⟩
    | ok i =>
      rw [readInt, read] at refused
      cases refused
  | arr items => exact outside (c := '[') (by simp [plainText, Json.render]) (by decide) (by decide)
  | obj fields => exact outside (c := '\x7b') (by simp [plainText, Json.render]) (by decide) (by decide)
  | num n =>
    cases n with
    | int i =>
      have large : ¬ Integer.isI64 i := by
        intro inRange
        simp [readInt, Number.toI64?, inRange] at refused
      obtain ⟨f, read⟩ := Integer.readI64_toString i
      rw [if_neg large, ← trim_toString] at read
      exact ⟨f, read⟩
    | float x =>
      rcases x.render_pointed (l := Number.layout) rfl with point | exponent
      · exact outside point (by decide) (by decide)
      · exact outside exponent (by decide) (by decide)

/-- A text that writes so many bytes: exactly, or up to rounding if it is written with a point. -/
structure StandsFor (text : String) (n : Int) : Prop where
  written : (∃ c : WrittenCapacity, Text.Padded c.text text) ∨ ∃ c : PointedCapacity, Text.Padded c.text text
  exactly : ∀ c : WrittenCapacity, Text.Padded c.text text → n = c.bytes
  nearly : ∀ c : PointedCapacity, Text.Padded c.text text → |(n : ℚ) - c.bytes| ≤ 1 + c.bytes / 2 ^ 50

/-- A capacity that overflows is taken for the most bytes that 64 bits can hold, or refused. So one that fits
into a signed integer is what its text says. -/
theorem standsFor_of_readCapacity {text : String} {n : Nat} (read : readCapacity (.str text) = .ok n)
    (fits : n ≤ Integer.i64Max) : StandsFor text n := by
  have limits : Integer.i64Max < 2 ^ 64 - 1 ∧ Integer.i64Max < Integer.u64Max := by decide
  refine ⟨written_of_readCapacity read, fun c padded => ?_, fun c padded => ?_⟩
  · have exactly := (readCapacity_written c padded).symm.trans read
    split_ifs at exactly
    · cases exactly
      omega
    · cases exactly
      rfl
  · obtain ⟨m, pointed, most | near⟩ := readCapacity_pointed c padded
    · cases pointed.symm.trans read
      omega
    · cases pointed.symm.trans read
      exact_mod_cast near

end Value

namespace Listener

/-- The values of a size limit that are negative integers, as numbers or as texts. -/
inductive RemovesLimit : Json → Prop where
  | number {i : Int} (negative : i < 0) : RemovesLimit (.num (.int i))
  | text {s : String} {i : Int} (read : Integer.readI64 (Text.trim s) = .ok i) (negative : i < 0) :
    RemovesLimit (.str s)

/-- A value as a size limit: the integer that it reads as, or else the capacity. -/
def SizeOf (raw : Json) (n : Int) : Prop :=
  Value.readInt raw = .ok n ∨
    (∃ fault, Value.readInt raw = .error fault) ∧ ∃ m : Nat, n = m ∧ Value.readCapacity raw = .ok m

/-- The readers as they are tried: a value is read as an integer, and as a capacity if that fails. -/
theorem readRequestSize_eq {s : Stanza} {raw : Json} (found : s.get? "max_request_size" = some raw) :
    readRequestSize s =
      match Value.readInt raw with
      | .ok i => .ok i
      | .error _ =>
        match Value.readCapacity raw with
        | .error fault => .error (s.invalid "max_request_size" (.requestSize (.invalid fault)))
        | .ok n =>
          if n ≤ Integer.i64Max then .ok n
          else .error (s.invalid "max_request_size" (.requestSizeTooLarge (Value.plainText raw))) := by
  have unread {fault : ValueFault} (refused : Value.readInt raw = .error fault) :
      ∃ f, Integer.readI64 (Text.trim (Value.plainText raw)) = .error f := Value.readI64_plainText refused
  unfold readRequestSize
  rw [found]
  dsimp only
  -- What a capacity is read as plays no part in how the readers are tried.
  generalize Value.readCapacity raw = capacity
  cases raw with
  | num n =>
    simp only [Value.readInt] at unread ⊢
    cases whole : n.toI64? with
    | some i => rfl
    | none =>
      rw [whole] at unread
      obtain ⟨f, text⟩ := unread rfl
      cases capacity <;> simp only [text]
  | str text =>
    simp only [Value.readInt, Value.plainText]
    cases Integer.readI64 (Text.trim text) with
    | ok i => rfl
    | error fault => cases capacity <;> rfl
  | _ =>
    obtain ⟨f, text⟩ := unread rfl
    cases capacity <;> simp only [text, Value.readInt]

theorem readRequestSize_ok {s : Stanza} {raw : Json} {i : Int} (found : s.get? "max_request_size" = some raw)
    (read : readRequestSize s = .ok i) : SizeOf raw i ∧ i ≤ Integer.i64Max := by
  rw [readRequestSize_eq found] at read
  cases whole : Value.readInt raw with
  | ok j =>
    rw [whole] at read
    cases read
    exact ⟨Or.inl whole, (Value.readInt_range whole).2⟩
  | error fault =>
    rw [whole] at read
    cases capacity : Value.readCapacity raw with
    | error refused =>
      rw [capacity] at read
      cases read
    | ok n =>
      rw [capacity] at read
      dsimp only at read
      split_ifs at read with fits
      cases read
      exact ⟨Or.inr ⟨⟨fault, whole⟩, n, rfl, capacity⟩, by exact_mod_cast fits⟩

theorem readInt_cases {raw : Json} {i : Int} (read : Value.readInt raw = .ok i) :
    raw = .num (.int i) ∨ ∃ text, raw = .str text ∧ Integer.readI64 (Text.trim text) = .ok i := by
  cases raw with
  | num n =>
    cases n with
    | int j =>
      rw [Value.readInt, Number.toI64?] at read
      split_ifs at read
      cases read
      exact Or.inl rfl
    | float x => cases read
  | str text => exact Or.inr ⟨text, rfl, Outcome.mapError_ok read⟩
  | _ => cases read

/-- No capacity is negative, and no negative integer is a capacity. -/
theorem removesLimit_iff {raw : Json} {i : Int} (size : SizeOf raw i) : RemovesLimit raw ↔ i < 0 := by
  rcases size with whole | ⟨⟨fault, refused⟩, n, rfl, capacity⟩
  · rcases readInt_cases whole with rfl | ⟨text, rfl, read⟩
    · exact ⟨fun (.number negative) => negative, .number⟩
    · refine ⟨fun (.text other negative) => ?_, .text read⟩
      cases read.symm.trans other
      exact negative
  · refine iff_of_false ?_ (by omega)
    rintro (@⟨j, negative⟩ | @⟨text, j, read, -⟩)
    · have signed : ¬ Integer.isU64 j := by
        simp [Integer.isU64, negative]
      rw [Value.readCapacity, Number.toU64?, if_neg signed] at capacity
      cases capacity
    · rw [Value.readInt, read] at refused
      cases refused

theorem effectiveMaxRequestSize_eq_none_iff (l : Listener) :
    l.effectiveMaxRequestSize = none ↔ l.maxRequestSize < 0 := by
  unfold effectiveMaxRequestSize
  split_ifs <;> simp <;> omega

theorem effectiveMaxRequestSize_natCast {l : Listener} {n : Nat} (size : l.maxRequestSize = n) :
    l.effectiveMaxRequestSize = some (if n = 0 then 32 * 1024 * 1024 else n) := by
  unfold effectiveMaxRequestSize
  rw [size]
  split_ifs <;> first | rfl | omega

/-- The limit is removed by a negative integer and by no other value, and without a value the default holds.
Every other size is the integer or the capacity that its value is read as, and what a capacity is read as is
what its text says: none overflows into a smaller one. -/
theorem effectiveMaxRequestSize_ofStanza {label : Option String} {s : Stanza} {l : Listener}
    (ran : (ofStanza label s).result = .ok l) :
    (s.get? "max_request_size" = none → l.effectiveMaxRequestSize = some (32 * 1024 * 1024)) ∧
    ∀ raw, s.get? "max_request_size" = some raw →
      (l.effectiveMaxRequestSize = none ↔ RemovesLimit raw) ∧
      (¬ RemovesLimit raw → ∃ n : Nat, SizeOf raw n ∧ n ≤ 2 ^ 63 - 1 ∧ l.maxRequestSize = n ∧
        l.effectiveMaxRequestSize = some (if n = 0 then 32 * 1024 * 1024 else n)) ∧
      ∀ text, raw = .str text → (∀ i, Integer.readI64 (Text.trim text) ≠ .ok i) →
        Value.StandsFor text l.maxRequestSize := by
  have read := (ofStanza_ok ran).maxRequestSize
  refine ⟨fun absent => ?_, fun raw found => ?_⟩
  · rw [readRequestSize, absent] at read
    exact effectiveMaxRequestSize_natCast (n := 0) (Except.ok.inj read).symm
  · obtain ⟨size, fits⟩ := readRequestSize_ok found read
    refine ⟨l.effectiveMaxRequestSize_eq_none_iff.trans (removesLimit_iff size).symm, fun kept => ?_, ?_⟩
    · rw [removesLimit_iff size, not_lt] at kept
      obtain ⟨n, same⟩ := Int.eq_ofNat_of_zero_le kept
      rw [same] at size fits
      refine ⟨n, size, ?_, same, effectiveMaxRequestSize_natCast same⟩
      have limit : Integer.i64Max = 2 ^ 63 - 1 := rfl
      omega
    · rintro text rfl noInteger
      rcases size with whole | ⟨-, n, same, capacity⟩
      · exact absurd (Outcome.mapError_ok whole) (noInteger _)
      · rw [same] at fits ⊢
        exact Value.standsFor_of_readCapacity capacity (by exact_mod_cast fits)

/-- A stanza with a limit of one and a half kibibytes. -/
def limitedStanza : Stanza :=
  ⟨"listeners.0", [("max_request_size", .str " 1.5 KiB")]⟩

theorem effectiveMaxRequestSize_limitedStanza :
    (ofStanza (some "tcp") limitedStanza).result = .ok { kind := .tcp, maxRequestSize := 1536 } ∧
      Listener.effectiveMaxRequestSize { kind := .tcp, maxRequestSize := 1536 } = some 1536 ∧
      Value.StandsFor " 1.5 KiB" 1536 := by
  have ran : (ofStanza (some "tcp") limitedStanza).result = .ok { kind := .tcp, maxRequestSize := 1536 } :=
    Outcome.ok_of_toOption (by decide +kernel)
  have noInteger : ∀ i, Integer.readI64 (Text.trim " 1.5 KiB") ≠ .ok i := nofun
  obtain ⟨-, kept, written⟩ := (effectiveMaxRequestSize_ofStanza ran).2 (.str " 1.5 KiB") rfl
  obtain ⟨n, -, -, same, limit⟩ := kept fun (.text read _) => noInteger _ read
  obtain rfl : 1536 = n := Int.ofNat.inj same
  exact ⟨ran, limit, written _ rfl noInteger⟩

end Listener

end ServiceKit
