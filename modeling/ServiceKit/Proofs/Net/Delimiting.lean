import Mathlib.Data.List.Basic
import ServiceKit.Proofs.Net.Spelling
import ServiceKit.Proofs.Number.Numerals

namespace ServiceKit

namespace Ip
variable {α β : Type} {stop : Char → Prop} {padded : Bool} {c : Char} {s : List Char}

/-- A reader that such characters bring to its end: it reads what stands before one as if there were no more. -/
def StopsAt (stop : Char → Prop) (read : List Char → Option (α × List Char)) : Prop :=
  ∀ before c behind, stop c →
    read (before ++ c :: behind) = (read before).map (Prod.map id (· ++ c :: behind))

namespace StopsAt
variable {read : List Char → Option (α × List Char)} {later : α → List Char → Option (β × List Char)}

theorem pure (a : α) : StopsAt stop fun s => some (a, s) :=
  fun _ _ _ _ => rfl

theorem bind (first : StopsAt stop read) (second : ∀ a, StopsAt stop (later a)) :
    StopsAt stop fun s => (read s).bind fun r => later r.1 r.2 := by
  intro before c behind met
  dsimp only
  rw [first before c behind met]
  cases read before with
  | none => rfl
  | some r => exact second r.1 r.2 c behind met

/-- What is read to the end has no such character. -/
theorem notMem {a : α} (stops : StopsAt stop read) (whole : read s = some (a, [])) (met : stop c) : c ∉ s := by
  intro member
  obtain ⟨before, behind, rfl⟩ := List.append_of_mem member
  rw [stops before c behind met] at whole
  obtain ⟨⟨a', rest⟩, -, same⟩ := Option.map_eq_some_iff.mp whole
  exact List.append_ne_nil_of_right_ne_nil rest (List.cons_ne_nil c behind) (congrArg Prod.snd same)

end StopsAt

/-! ### Where the readers of addresses stop -/

theorem readGroup_stopsAt {base most : Nat} (other : ∀ c, stop c → Integer.digitValue? base c = none) :
    StopsAt stop (readGroup base most padded) := by
  intro before c behind met
  let isDigit (c : Char) : Bool := (Integer.digitValue? base c).isSome
  have bad : isDigit c = false := by simp [isDigit, other c met]
  have digits : (before ++ c :: behind).takeWhile isDigit = before.takeWhile isDigit := by
    induction before with
    | nil => simp [bad]
    | cons d before ih => by_cases digit : isDigit d <;> simp [digit, ih]
  have rest : (before ++ c :: behind).dropWhile isDigit = before.dropWhile isDigit ++ c :: behind := by
    induction before with
    | nil => simp [bad]
    | cons d before ih => by_cases digit : isDigit d <;> simp_all
  unfold readGroup
  dsimp only
  rw [digits, rest]
  split_ifs <;> rfl

/-- Digits alone are read as the number that they write. -/
theorem readGroup_digits {digits : List Char} (all : ∀ c ∈ digits, c.isDigit) (nonempty : digits ≠ []) :
    readGroup 10 digits.length true digits = some (Integer.decimal digits, []) := by
  have digit : ∀ c ∈ digits, (Integer.digitValue? 10 c).isSome := fun c member => by
    rw [Integer.digitValue?_of_isDigit (all c member), Option.isSome_some]
  have value : digits.foldl (fun n c => 10 * n + (Integer.digitValue? 10 c).getD 0) 0 = Integer.decimal digits := by
    rw [Integer.decimal_eq_ofDigitChars, Nat.ofDigitChars]
    refine List.foldl_ext _ _ _ fun n c member => ?_
    rw [Integer.digitValue?_of_isDigit (all c member), Option.getD_some]
  unfold readGroup
  dsimp only
  rw [List.takeWhile_eq_self_iff.mpr digit, List.dropWhile_eq_nil_iff.mpr digit, value]
  simp [nonempty]

/-- Characters that no four octets are written with. -/
def EndsOctets (c : Char) : Prop :=
  Integer.digitValue? 10 c = none ∧ c ≠ '.'

instance (c : Char) : Decidable (EndsOctets c) :=
  inferInstanceAs (Decidable (_ ∧ _))

theorem readOctet_stopsAt (first : Bool) : StopsAt EndsOctets (readOctet padded first) := by
  have bounded (n : Nat) : StopsAt EndsOctets fun s => if n < 256 then some (n, s) else none := by
    intro before c behind _
    dsimp only
    split_ifs <;> rfl
  have digits : StopsAt EndsOctets (readGroup 10 3 padded) := readGroup_stopsAt fun c met => met.1
  have group := digits.bind bounded
  cases first with
  | true => exact group
  | false =>
    intro before c behind met
    cases before with
    | nil =>
      unfold readOctet
      simp [met.2]
    | cons d before =>
      by_cases point : d = '.'
      · subst point
        exact group before c behind met
      · unfold readOctet
        simp [point]

theorem readOctets_stopsAt : StopsAt EndsOctets (readOctets padded) := by
  -- Each octet is read where the one before it ends, so the reader is put together from the last one on.
  have later : StopsAt EndsOctets (readOctet padded false) := readOctet_stopsAt false
  have whole (a b c d : Nat) : StopsAt EndsOctets fun s => some (((a * 256 + b) * 256 + c) * 256 + d, s) :=
    .pure _
  have fourth (a b c : Nat) := later.bind (whole a b c)
  have third (a b : Nat) := later.bind (fourth a b)
  have second (a : Nat) := later.bind (third a)
  exact (readOctet_stopsAt true).bind second

theorem readV4_stopsAt : StopsAt EndsOctets (readV4 padded) := by
  intro before c behind met
  rw [readV4, readOctets_stopsAt before c behind met, readV4, Option.map_map, Option.map_map]
  rfl

theorem endsOctets_of_not_glyph (other : ¬ Glyph c) : EndsOctets c := by
  refine ⟨?_, fun point => other (Or.inr (Or.inl point))⟩
  rw [Option.eq_none_iff_forall_not_mem]
  intro n digit
  exact other (glyph_of_digit (by decide) (Option.isSome_iff_exists.mpr ⟨n, digit⟩))

/-- Where a group begins: the first one at once, and every other one behind a colon. -/
def groupStart? (first : Bool) (s : List Char) : Option (List Char) :=
  if first then some s else match s with
    | ':' :: r => some r
    | _ => none

theorem readGroups_succ (limit : Nat) (first : Bool) (s : List Char) :
    readGroups padded (limit + 1) first s =
      match groupStart? first s with
      | none => ([], false, s)
      | some r =>
        match if 1 ≤ limit then readOctets padded r else none with
        | some (n, r) => ([n / 65536, n % 65536], true, r)
        | none =>
          match readGroup 16 4 true r with
          | none => ([], false, s)
          | some (g, r) => (readGroups padded limit false r).map (g :: ·) id := by
  rfl

theorem groupStart?_append (other : ¬ Glyph c) (first : Bool) (before behind : List Char) :
    groupStart? first (before ++ c :: behind) = (groupStart? first before).map (· ++ c :: behind) := by
  have colon : c ≠ ':' := fun same => other (Or.inr (Or.inr same))
  cases first with
  | true => rfl
  | false =>
    cases before with
    | nil => simp [groupStart?, colon]
    | cons d before => by_cases same : d = ':' <;> simp [groupStart?, same]

theorem readGroups_append (other : ¬ Glyph c) (limit : Nat) (first : Bool) (before behind : List Char) :
    readGroups padded limit first (before ++ c :: behind) =
      (readGroups padded limit first before).map id (Prod.map id (· ++ c :: behind)) := by
  have group : StopsAt (¬ Glyph ·) (readGroup 16 4 true) := by
    refine readGroup_stopsAt fun c other => Option.eq_none_iff_forall_not_mem.mpr fun n digit => other ?_
    exact Or.inl (Option.isSome_iff_exists.mpr ⟨n, digit⟩)
  have octets : ∀ limit, StopsAt (¬ Glyph ·) fun s => if 1 ≤ limit then readOctets padded s else none := by
    intro limit before c behind other
    dsimp only
    rw [readOctets_stopsAt before c behind (endsOctets_of_not_glyph other)]
    split_ifs <;> rfl
  induction limit generalizing first before with
  | zero => rfl
  | succ limit ih =>
    rw [readGroups_succ, readGroups_succ, groupStart?_append other]
    cases groupStart? first before with
    | none => rfl
    | some start =>
      have dotted := octets limit start c behind other
      dsimp only [Option.map_some] at dotted ⊢
      rw [dotted, group start c behind other]
      cases if 1 ≤ limit then readOctets padded start else none with
      | some r => rfl
      | none =>
        cases readGroup 16 4 true start with
        | none => rfl
        | some r => exact congrArg (Prod.map (r.1 :: ·) id) (ih false r.2)

/-- Where the groups behind a double colon begin. -/
def gapEnd? : List Char → Option (List Char)
  | ':' :: ':' :: r => some r
  | _ => none

theorem readV6_eq (gap : Nat) (s : List Char) :
    readV6 padded gap s =
      let (head, dotted, r) := readGroups padded 8 true s
      if head.length = 8 then some (ofGroups head, r)
      else if dotted then none
      else (gapEnd? r).map fun r =>
        let (tail, _, r) := readGroups padded (8 - gap - head.length) true r
        (ofGroups (head ++ List.replicate (8 - head.length - tail.length) 0 ++ tail), r) := by
  unfold readV6
  generalize readGroups padded 8 true s = groups
  obtain ⟨head, dotted, r⟩ := groups
  dsimp only
  split_ifs
  · rfl
  · rfl
  · split
    · rfl
    · rename_i other
      unfold gapEnd?
      split
      · exact absurd rfl (other _)
      · rfl

theorem gapEnd?_append (other : ¬ Glyph c) (before behind : List Char) :
    gapEnd? (before ++ c :: behind) = (gapEnd? before).map (· ++ c :: behind) := by
  have colon : c ≠ ':' := fun same => other (Or.inr (Or.inr same))
  match before with
  | [] => simp [gapEnd?, colon]
  | [d] => simp [gapEnd?, colon]
  | d :: e :: rest => by_cases first : d = ':' <;> by_cases second : e = ':' <;> simp [gapEnd?, first, second]

theorem readV6_stopsAt {gap : Nat} : StopsAt (¬ Glyph ·) (readV6 padded gap) := by
  intro before c behind other
  rw [readV6_eq, readV6_eq, readGroups_append other]
  obtain ⟨head, dotted, rest⟩ := readGroups padded 8 true before
  dsimp only [Prod.map, id_eq]
  split_ifs
  · rfl
  · rfl
  · rw [gapEnd?_append other]
    cases gapEnd? rest with
    | none => rfl
    | some rest =>
      dsimp only [Option.map_some]
      rw [readGroups_append other]
      rfl

/-! ### Texts that are one address -/

theorem readV4_of_parse? {text : String} {a : BitVec 32} (read : parse? text = some (.v4 a)) :
    readV4 false text.toList = some (a, []) := by
  unfold parse? at read
  split at read
  · rename_i short
    cases read
    exact short
  · split at read <;> cases read

theorem readV6_of_parse? {text : String} {a : BitVec 128} (read : parse? text = some (.v6 a)) :
    readV6 false 1 text.toList = some (a, []) := by
  unfold parse? at read
  split at read
  · cases read
  · split at read
    · rename_i long
      cases read
      exact long
    · cases read

theorem colon_notMem_of_readV4 {a : BitVec 32} (whole : readV4 padded s = some (a, [])) : ':' ∉ s :=
  readV4_stopsAt.notMem whole (by decide)

theorem Eats.notMem {rest : List Char} (eats : Eats s rest) (absent : c ∉ s) : c ∉ rest := by
  obtain ⟨eaten, rfl, -⟩ := eats
  exact fun member => absent (List.mem_append_right eaten member)

theorem groupStart?_of_notMem (noColon : ':' ∉ s) : groupStart? false s = none := by
  cases s with
  | nil => rfl
  | cons c s =>
    have other : c ≠ ':' := fun same => noColon (same ▸ List.mem_cons_self)
    simp [groupStart?, other]

theorem gapEnd?_of_notMem (noColon : ':' ∉ s) : gapEnd? s = none := by
  unfold gapEnd?
  split
  · exact absurd List.mem_cons_self noColon
  · rfl

/-- Without a colon there are two groups at most, those of four octets. -/
theorem length_readGroups_le (limit : Nat) (noColon : ':' ∉ s) :
    (readGroups padded limit true s).1.length ≤ 2 := by
  cases limit with
  | zero => exact Nat.zero_le 2
  | succ limit =>
    have start : groupStart? true s = some s := rfl
    rw [readGroups_succ, start]
    dsimp only
    cases if 1 ≤ limit then readOctets padded s else none with
    | some r => exact Nat.le_refl 2
    | none =>
      cases group : readGroup 16 4 true s with
      | none => exact Nat.zero_le 2
      | some r =>
        have behind := groupStart?_of_notMem ((readGroup_eats (Nat.le_refl 16) group).notMem noColon)
        have last : (readGroups padded limit false r.2).1 = [] := by
          cases limit with
          | zero => rfl
          | succ limit => rw [readGroups_succ, behind]
        simp [last]

theorem colon_mem_of_readV6 {gap : Nat} {rest : List Char} {a : BitVec 128}
    (read : readV6 padded gap s = some (a, rest)) : ':' ∈ s := by
  by_contra noColon
  -- Two groups are fewer than eight, and the gap that could stand for the others takes colons.
  have few : (readGroups padded 8 true s).1.length ≤ 2 := length_readGroups_le 8 noColon
  have behind := (readGroups_eats padded 8 true s).notMem noColon
  rw [readV6_eq] at read
  generalize readGroups padded 8 true s = groups at read few behind
  obtain ⟨head, dotted, r⟩ := groups
  dsimp only at read few behind
  rw [if_neg (by omega), gapEnd?_of_notMem behind] at read
  split_ifs at read
  cases read

/-- Four octets are not the address of eight groups that they could end. -/
theorem readV6_of_readV4 {gap : Nat} {a : BitVec 32} (whole : readV4 padded s = some (a, [])) :
    readV6 padded gap s = none := by
  rw [← Option.not_isSome_iff_eq_none, Option.isSome_iff_exists]
  rintro ⟨⟨b, rest⟩, read⟩
  exact colon_notMem_of_readV4 whole (colon_mem_of_readV6 read)

end Ip

namespace SocketAddress
open Ip (Glyph)
variable {s : String} {c : Char} {r : List Char} {opening closing port : Nat} {text : List Char}

/-- A port is read behind a colon, but not with closing brackets before that. -/
theorem readPort_behind (range : port < 65536) (closing : Nat) :
    readPort (List.replicate closing ']' ++ ':' :: Nat.toDigits 10 port) = if closing = 0 then some port else none := by
  cases closing with
  | zero =>
    have digits := Ip.readGroup_digits (toDigits_digits port) Nat.toDigits_ne_nil
    simp [readPort, digits, Integer.decimal_toDigits, range]
  | succ closing => rfl

theorem readZone_suffix {zone : Nat} {rest : List Char} (read : readZone r = some (zone, rest)) : rest <:+ r := by
  unfold readZone at read
  split at read
  · split at read
    · rename_i digits
      split_ifs at read
      cases read
      obtain ⟨eaten, rfl, -⟩ := Ip.readGroup_eats (by decide) digits
      exact ⟨'%' :: eaten, rfl⟩
    · cases read
  · cases read
    exact List.suffix_rfl

theorem parse?_of_open (shape : s.toList = '[' :: r) :
    parse? s = (Ip.readV6 false 1 r).bind fun x => (readZone x.2).bind fun y =>
      match y.2 with
      | ']' :: r => (readPort r).map fun port => ⟨.v6 x.1, port, y.1⟩
      | _ => none := by
  unfold parse?
  rw [shape]
  rfl

theorem parse?_of_not_open (shape : s.toList.head? ≠ some '[') :
    parse? s = (Ip.readV4 false s.toList).bind fun x => (readPort x.2).map fun port => ofIp (.v4 x.1) port := by
  unfold parse?
  split
  · rename_i opened
    rw [opened] at shape
    exact absurd rfl shape
  · rfl

/-- Nothing is read of a bracket that is never closed. -/
theorem parse?_of_unclosed (shape : s.toList = '[' :: r) (unclosed : ']' ∉ r) : parse? s = none := by
  rw [parse?_of_open shape, Option.bind_eq_none_iff]
  rintro ⟨a, afterAddress⟩ address
  rw [Option.bind_eq_none_iff]
  rintro ⟨zone, afterZone⟩ atZone
  have notBehind : ']' ∉ afterZone := fun member =>
    (Ip.readV6_eats address).notMem unclosed ((readZone_suffix atZone).subset member)
  split
  · rename_i same
    dsimp only at same
    exact absurd (same ▸ List.mem_cons_self) notBehind
  · rfl

/-! ### Addresses between brackets -/

/-- A text between so many brackets, with a port behind them. -/
def framed (opening closing : Nat) (text : List Char) (port : Nat) : List Char :=
  List.replicate opening '[' ++ (text ++ (List.replicate closing ']' ++ ':' :: Nat.toDigits 10 port))

theorem parse?_of_refused (shape : s.toList = '[' :: (text ++ c :: r)) (other : ¬ Glyph c)
    (refused : Ip.readV6 false 1 text = none) : parse? s = none := by
  rw [parse?_of_open shape, Ip.readV6_stopsAt text c r other, refused]
  rfl

theorem parse?_of_closed {a : BitVec 128} (shape : s.toList = '[' :: (text ++ ']' :: r))
    (six : Ip.readV6 false 1 text = some (a, [])) : parse? s = (readPort r).map (ofIp (.v6 a)) := by
  rw [parse?_of_open shape, Ip.readV6_stopsAt text ']' r (by decide), six]
  rfl

theorem parse?_framed_twice (shape : s.toList = framed (opening + 2) closing text port) : parse? s = none := by
  have opened : s.toList = '[' :: ([] ++ '[' :: _) := shape
  exact parse?_of_refused opened (by decide) rfl

theorem parse?_framed_unclosed (shape : s.toList = framed 1 0 text port) (apart : ']' ∉ text) :
    parse? s = none := by
  have opened : s.toList = '[' :: (text ++ ':' :: Nat.toDigits 10 port) := shape
  refine parse?_of_unclosed opened fun member => ?_
  rcases List.mem_append.mp member with inText | behind
  · exact apart inText
  · rcases List.mem_cons.mp behind with colon | digit
    · exact absurd colon (by decide)
    · exact absurd (toDigits_digits port _ digit) (by decide)

/-- Four octets and a port are read where no bracket is about them. -/
theorem parse?_framed_v4 {a : BitVec 32} (four : Ip.readV4 false text = some (a, [])) (range : port < 65536)
    (shape : s.toList = framed opening closing text port) :
    parse? s = if opening = 0 ∧ closing = 0 then some (ofIp (.v4 a) port) else none := by
  have apart {c : Char} (ends : Ip.EndsOctets c) : c ∉ text := Ip.readV4_stopsAt.notMem four ends
  -- With an opening bracket eight groups are looked for, and four octets are none.
  match opening, closing with
  | 0, closing =>
    have plain : s.toList.head? ≠ some '[' := by
      rw [shape]
      cases text with
      | nil => cases four
      | cons c text =>
        rintro ⟨⟩
        exact apart (by decide) List.mem_cons_self
    have octets : Ip.readV4 false s.toList =
        some (a, List.replicate closing ']' ++ ':' :: Nat.toDigits 10 port) := by
      rw [shape]
      cases closing with
      | zero => exact (Ip.readV4_stopsAt text ':' _ (by decide)).trans (by rw [four]; rfl)
      | succ closing => exact (Ip.readV4_stopsAt text ']' _ (by decide)).trans (by rw [four]; rfl)
    rw [parse?_of_not_open plain, octets, Option.bind_some, readPort_behind range]
    split_ifs <;> simp_all
  | 1, 0 => simpa using parse?_framed_unclosed shape (apart (by decide))
  | 1, closing + 1 =>
    have closed : s.toList = '[' :: (text ++ ']' :: _) := shape
    simpa using parse?_of_refused closed (by decide) (Ip.readV6_of_readV4 four)
  | opening + 2, closing => simpa using parse?_framed_twice shape

/-- Eight groups and a port are read where one pair of brackets is about them. -/
theorem parse?_framed_v6 {a : BitVec 128} (six : Ip.readV6 false 1 text = some (a, [])) (range : port < 65536)
    (shape : s.toList = framed (opening + 1) closing text port) :
    parse? s = if opening = 0 ∧ closing = 1 then some (ofIp (.v6 a) port) else none := by
  match opening, closing with
  | 0, 0 =>
    have apart : ']' ∉ text := Ip.readV6_stopsAt.notMem six (by decide)
    simpa using parse?_framed_unclosed shape apart
  | 0, closing + 1 =>
    have closed : s.toList = '[' :: (text ++ ']' :: (List.replicate closing ']' ++ ':' :: Nat.toDigits 10 port)) :=
      shape
    rw [parse?_of_closed closed six, readPort_behind range]
    split_ifs <;> simp_all
  | opening + 1, closing => simpa using parse?_framed_twice shape

end SocketAddress

end ServiceKit
