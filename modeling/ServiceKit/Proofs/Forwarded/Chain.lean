import Mathlib.Data.List.DropRight
import ServiceKit.Http.Forwarded
import ServiceKit.Proofs.Text.Splitting

namespace ServiceKit

namespace Headers

/-- The character that a byte of a header value stands for. -/
def glyph (b : UInt8) : Char :=
  Char.ofNat b.toNat

/-- A value as text, byte by byte. -/
def glyphs (value : Bytes) : String :=
  String.ofList (value.map glyph)

/-- A value of visible characters, spaces and tabs. -/
def Legible (value : Bytes) : Prop :=
  ∀ b ∈ value, isVisible b = true

instance (value : Bytes) : Decidable (Legible value) :=
  inferInstanceAs (Decidable (∀ b ∈ value, isVisible b = true))

theorem toNat_glyph (b : UInt8) : (glyph b).toNat = b.toNat := by
  have small : b.toNat < 256 := b.toNat_lt
  have valid : b.toNat.isValidChar := Or.inl (by omega)
  rw [glyph, Char.ofNat, dif_pos valid]
  rfl

theorem glyph_injective : Function.Injective glyph := by
  intro a b same
  have values : (glyph a).toNat = (glyph b).toNat := congrArg Char.toNat same
  rw [toNat_glyph, toNat_glyph] at values
  exact UInt8.toNat_inj.mp values

theorem text?_eq (value : Bytes) :
    text? value = if Legible value then some (glyphs value) else none := by
  simp only [text?, Legible, glyphs, List.all_eq_true]
  rfl

end Headers

namespace ForwardedSettings
open Headers (Legible glyph glyphs)

/-- The byte between two links. -/
def comma : UInt8 := 44

/-- The links of header values in order, those values included that do not count. -/
def links (values : List Bytes) : List Bytes :=
  values.flatMap (List.splitOn comma)

/-- The host that a link names. -/
def hostOf (link : Bytes) : String :=
  Text.trim (glyphs link)

/-- The values that count. -/
def counted (values : List Bytes) : List Bytes :=
  values.filter (Legible ·)

theorem filterMap_text? (values : List Bytes) :
    values.filterMap Headers.text? = (counted values).map glyphs := by
  induction values with
  | nil => rfl
  | cons value rest ih =>
    rw [List.filterMap_cons, Headers.text?_eq, ih]
    by_cases legible : Legible value <;> simp [counted, legible]

theorem links_append (front back : List Bytes) : links (front ++ back) = links front ++ links back :=
  List.flatMap_append

theorem counted_append (front back : List Bytes) :
    counted (front ++ back) = counted front ++ counted back :=
  List.filter_append ..

theorem counted_eq_self {values : List Bytes} (legible : ∀ value ∈ values, Legible value) :
    counted values = values :=
  List.filter_eq_self.mpr (by simpa using legible)

/-- A value can be read exactly if all of its links can. -/
theorem legible_iff_links {value : Bytes} :
    Legible value ↔ ∀ link ∈ value.splitOn comma, Legible link := by
  constructor
  · intro legible link inValue b inLink
    exact legible b (Text.mem_of_mem_splitOn inValue inLink)
  · intro each b member
    obtain rfl | ⟨link, inValue, inLink⟩ : b = comma ∨ ∃ link ∈ value.splitOn comma, b ∈ link :=
      Text.eq_or_mem_splitOn member
    · decide
    · exact each link inValue b inLink

theorem legible_values_iff_links {values : List Bytes} :
    (∀ value ∈ values, Legible value) ↔ ∀ link ∈ links values, Legible link := by
  simp only [links, List.mem_flatMap, forall_exists_index, and_imp]
  constructor
  · intro each link value member inValue
    exact legible_iff_links.mp (each value member) link inValue
  · intro each value member
    exact legible_iff_links.mpr fun link inValue => each link value member inValue

theorem split_glyphs (value : Bytes) :
    Text.split ',' (glyphs value) = (value.splitOn comma).map glyphs := by
  have atComma : glyph comma = ',' := by decide
  simp only [Text.split, glyphs, Text.splitChars_eq_splitOn, String.toList_ofList, ← atComma,
    Text.splitOn_map Headers.glyph_injective, List.map_map]
  rfl

/-- The chain has one host for each link. -/
theorem chain_glyphs (values : List Bytes) : chain (values.map glyphs) = (links values).map hostOf := by
  rw [chain, links, List.map_flatMap, List.flatMap_map, List.map_flatMap]
  simp only [split_glyphs, List.map_map]
  rfl

theorem getElem?_reverse_of_le {xs : List Bytes} {passed : Nat} (short : xs.length < 1 + passed) :
    xs.reverse[passed]? = none :=
  List.getElem?_eq_none (by rw [List.length_reverse]; omega)

theorem getElem?_reverse_of_lt {xs : List Bytes} {passed : Nat} (long : ¬ xs.length < 1 + passed) :
    ∃ link, xs.reverse[passed]? = some link ∧ xs[xs.length - (1 + passed)]? = some link := by
  have inside : xs.length - 1 - passed < xs.length := by omega
  have index : xs.length - (1 + passed) = xs.length - 1 - passed := by omega
  rw [List.getElem?_reverse (by omega), index]
  exact ⟨xs[xs.length - 1 - passed], List.getElem?_eq_getElem inside, List.getElem?_eq_getElem inside⟩

/-- The answer in terms of the links of the values that count, when the sum of hops is in range. -/
theorem trustedClient_eq {config : ForwardedSettings} (room : config.hopSkips < Integer.u64Max)
    (headers : Headers) (remote : SocketAddress) :
    config.trustedClient headers remote =
      if counted (headers.getAll header) = [] then
        if config.rejectNotPresent then .error (.error .notPresent) else .ok none
      else if !config.isAuthorized remote.ip then
        if config.rejectNotAuthorized then .error (.error .notAuthorized) else .ok none
      else match (links (counted (headers.getAll header))).reverse[config.hopSkips]? with
        | some link => .ok (some ⟨hostOf link, remote.port⟩)
        | none => .error (.error (.shortChain config.hopSkips
            (links (counted (headers.getAll header))).length)) := by
  have inRange : ¬ Integer.u64Max < 1 + config.hopSkips := by omega
  simp only [trustedClient, filterMap_text?, chain_glyphs, List.length_map, List.isEmpty_iff,
    List.map_eq_nil_iff, List.getElem?_map, inRange, if_false]
  by_cases short : (links (counted (headers.getAll header))).length < 1 + config.hopSkips
  · simp only [short, if_true, getElem?_reverse_of_le short]
  · obtain ⟨link, fromBack, fromFront⟩ := getElem?_reverse_of_lt short
    simp only [short, if_false, fromFront, fromBack, Option.map_some]

/-- The only crash is that of the sum of hops. -/
theorem crash_of_trustedClient {config : ForwardedSettings} {headers : Headers} {remote : SocketAddress}
    {crash : Crash} (crashed : config.trustedClient headers remote = .error (.crash crash)) :
    Integer.u64Max ≤ config.hopSkips ∧ crash = .additionOverflow := by
  by_cases room : config.hopSkips < Integer.u64Max
  · rw [trustedClient_eq room] at crashed
    split_ifs at crashed <;> try cases crashed
    split at crashed <;> cases crashed
  · have tooMany : Integer.u64Max < 1 + config.hopSkips := by omega
    simp only [trustedClient, tooMany, if_true] at crashed
    split_ifs at crashed <;> cases crashed
    exact ⟨by omega, rfl⟩

end ForwardedSettings

end ServiceKit
