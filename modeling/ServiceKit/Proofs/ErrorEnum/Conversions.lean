import Mathlib.Data.List.Perm.Subperm
import ServiceKit.Proofs.ErrorEnum.Inspecting

namespace ServiceKit.ErrorEnum

variable {item : Item} {e : Expansion} {v : Variant} {vs : List Variant} {f : Field} {l : Literal} {τ : Type}
  {meaning : String → τ}

/-! ### What code is generated from -/

/-- A step of the look that leaves nothing to report has seen its variant, and reported nothing before. -/
theorem Inspection.seen_of_add {i : Inspection} (none : (i.add v).diagnostics = []) :
    i.diagnostics = [] ∧ (i.add v).variants = i.variants ++ [v.seen] := by
  unfold Inspection.add at none ⊢
  have course := inspect_course v
  generalize inspect v = seen at course none
  cases course with
  | refused => simp at none
  | accepted => exact ⟨none, rfl⟩

theorem inspectAll_seen (none : (inspectAll vs).diagnostics = []) :
    (inspectAll vs).variants = vs.map Variant.seen := by
  induction vs using List.reverseRecOn with
  | nil => rfl
  | append_singleton vs v ih =>
    rw [inspectAll_concat] at none ⊢
    obtain ⟨before, seen⟩ := Inspection.seen_of_add none
    rw [seen, ih before, List.map_append, List.map_singleton]

theorem generated_of_expand (expanded : expand item = .ok e) :
    (∀ v ∈ item.variants, ¬ Offends FoundWrong v) ∧ e = generate item (item.variants.map Variant.seen) := by
  by_cases kind : item.kind = .enum
  · refine ⟨((judges_foundWrong item).accepts kind).mp ⟨e, expanded⟩, ?_⟩
    rw [expand_of_enum kind] at expanded
    split_ifs at expanded with none
    rw [← inspectAll_seen (List.isEmpty_iff.mp none), Except.ok.inj expanded]
  · rw [expand_of_ne_enum kind] at expanded
    cases expanded

/-! ### What is generated -/

namespace Variant

/-- The field that a variant is made from, which is that of its cause. The internal one is made from text. -/
def origin? (v : Variant) : Option Field :=
  if v.name = internalName then none else sourceField? v.namedFields

def underCfg (v : Variant) : Bool :=
  v.attrs.any (·.isNamed "cfg")

/-- The type that a variant is made from, if it is always there. -/
def openOrigin? (v : Variant) : Option String :=
  if v.underCfg then none else v.origin?.map (·.type)

theorem seen_cfg_isEmpty (v : Variant) : v.seen.cfg.isEmpty = !v.underCfg := by
  rw [seen, underCfg, Bool.eq_iff_iff]
  simp

end Variant

/-- The same of generated code. -/
def Impl.openOrigin? (i : Impl) : Option String :=
  if i.cfg.isEmpty then i.origin? else none

def Item.internal? (item : Item) : Option Variant :=
  item.variants.find? (·.name == internalName)

theorem sourceImpls_seen (v : Variant) :
    sourceImpls v.seen =
      match v.origin? with
      | none => []
      | some f => [.fromSource f.type v.seen.cfg ⟨v.seen, [f.name, "context"]⟩,
          .attachSource f.type v.seen.cfg ⟨v.seen, [f.name, "context"]⟩] := by
  unfold sourceImpls Variant.origin?
  by_cases internal : v.name = internalName
  · have same : v.seen.name = internalName := internal
    simp only [same, internal, if_true]
    split <;> rfl
  · have other : v.seen.name ≠ internalName := internal
    simp only [other, internal, if_false]
    rfl

theorem internalImpls_seen (item : Item) :
    internalImpls (item.variants.map Variant.seen) =
      match item.internal? with
      | none => []
      | some v => [.fromText "&'static str" v.seen.cfg ⟨v.seen, ["message", "context"]⟩,
          .fromText "String" v.seen.cfg ⟨v.seen, ["message", "context"]⟩] := by
  have found : (item.variants.map Variant.seen).find? (·.name == internalName) = item.internal?.map Variant.seen :=
    List.find?_map
  rw [internalImpls, found]
  cases item.internal? <;> rfl

namespace Expansion

/-- The values that generated code writes. -/
def literals (e : Expansion) : List Literal :=
  e.impls.filterMap Impl.literal?

/-- The types that the error is made from by code which is always there. -/
def origins (e : Expansion) : List String :=
  e.impls.filterMap Impl.openOrigin?

end Expansion

/-- What there is of a kind in generated code comes from its variants and from the internal one. -/
theorem filterMap_impls {α : Type} (pick : Impl → Option α) (attach : ∀ arms, pick (.attach arms) = none)
    (tell : ∀ arms, pick (.tell arms) = none) (item : Item) :
    (generate item (item.variants.map Variant.seen)).impls.filterMap pick =
      item.variants.flatMap (fun v => (sourceImpls v.seen).filterMap pick) ++
        (internalImpls (item.variants.map Variant.seen)).filterMap pick := by
  simp [generate, attach, tell, List.filterMap_flatMap, List.flatMap_map]

theorem mem_literals_iff :
    l ∈ (generate item (item.variants.map Variant.seen)).literals ↔
      (∃ v ∈ item.variants, ∃ f, v.origin? = some f ∧ l = ⟨v.seen, [f.name, "context"]⟩) ∨
        ∃ v, item.internal? = some v ∧ l = ⟨v.seen, ["message", "context"]⟩ := by
  have sourced (v : Variant) : l ∈ (sourceImpls v.seen).filterMap Impl.literal? ↔
      ∃ f, v.origin? = some f ∧ l = ⟨v.seen, [f.name, "context"]⟩ := by
    rw [sourceImpls_seen]
    cases v.origin? <;> simp [Impl.literal?]
  have internal : l ∈ (internalImpls (item.variants.map Variant.seen)).filterMap Impl.literal? ↔
      ∃ v, item.internal? = some v ∧ l = ⟨v.seen, ["message", "context"]⟩ := by
    rw [internalImpls_seen]
    cases item.internal? <;> simp [Impl.literal?]
  rw [Expansion.literals, filterMap_impls _ (fun _ => rfl) (fun _ => rfl), List.mem_append, List.mem_flatMap, internal]
  simp only [sourced]

/-- The types that text is made from: two, if there is an internal variant. -/
def Item.textOrigins (item : Item) : List String :=
  match item.internal? with
  | some v => if v.underCfg then [] else ["&'static str", "String"]
  | none => []

theorem origins_generate (item : Item) :
    (generate item (item.variants.map Variant.seen)).origins =
      item.variants.filterMap Variant.openOrigin? ++ item.textOrigins := by
  have sourced (v : Variant) : (sourceImpls v.seen).filterMap Impl.openOrigin? = v.openOrigin?.toList := by
    rw [sourceImpls_seen, Variant.openOrigin?]
    cases v.origin? <;> cases cfg : v.underCfg <;>
      simp [Impl.openOrigin?, Impl.cfg, Impl.origin?, Variant.seen_cfg_isEmpty, cfg]
  have internal : (internalImpls (item.variants.map Variant.seen)).filterMap Impl.openOrigin? = item.textOrigins := by
    rw [internalImpls_seen, Item.textOrigins]
    cases item.internal? with
    | none => rfl
    | some v =>
      cases cfg : v.underCfg <;> simp [Impl.openOrigin?, Impl.cfg, Impl.origin?, Variant.seen_cfg_isEmpty, cfg]
  rw [Expansion.origins, filterMap_impls _ (fun _ => rfl) (fun _ => rfl), internal, List.filterMap_eq_flatMap_toList]
  simp only [sourced]

/-! ### When it is well-formed -/

/-- A value is written as it has to be: each field of its variant is given, and once. -/
def Literal.Exact (l : Literal) : Prop :=
  l.fields.Nodup ∧ (l.variant.fields.map (·.name)).Perm l.fields

/-- Generated code is well-formed, where `meaning` says which written types are the same. -/
structure Expansion.WellFormed (meaning : String → τ) (e : Expansion) : Prop where
  exact : ∀ l ∈ e.literals, l.Exact
  apart : (e.origins.map meaning).Nodup

/-- The variants that values are made of have no fields but those that the code knows of. -/
structure Item.FieldsKnown (item : Item) : Prop where
  sourced : ∀ v ∈ item.variants, ∀ f, v.origin? = some f → v.namedFields.length = 2 ∧ f.name ≠ "context"
  internal : ∀ v, item.internal? = some v → (v.namedFields.map (·.name)).Perm ["message", "context"]

/-- No two variants are made from the same type, and none from text beside the internal one. -/
structure Item.OriginsApart (meaning : String → τ) (item : Item) : Prop where
  sources : item.variants.Pairwise fun v w =>
    ∀ s t, v.openOrigin? = some s → w.openOrigin? = some t → meaning s ≠ meaning t
  text : ∀ v ∈ item.variants, ∀ s, v.openOrigin? = some s → ∀ t ∈ item.textOrigins, meaning s ≠ meaning t

theorem mem_of_origin? (origin : v.origin? = some f) : f ∈ v.namedFields ∧ HoldsSource f := by
  rw [Variant.origin?, Option.ite_none_left_eq_some] at origin
  exact ⟨List.mem_of_find?_eq_some origin.2, isSource_iff.mp (List.find?_some origin.2)⟩

/-- A variant that is accepted with a source has a context. -/
theorem context_mem_of_origin? (fine : ¬ Offends FoundWrong v) (origin : v.origin? = some f) :
    "context" ∈ v.namedFields.map (·.name) := by
  obtain ⟨member, source⟩ := mem_of_origin? origin
  by_contra missing
  cases shape : v.shape with
  | named fields =>
    have same : v.namedFields = fields := by rw [Variant.namedFields, shape]
    rw [same] at member missing
    rw [offends_iff_of_named shape] at fine
    exact fine (Or.inr ⟨⟨f, member, source⟩, fun other inside named =>
      missing (List.mem_map.mpr ⟨other, inside, named⟩)⟩)
  | tuple | unit => exact fine ⟨_, .unnamed (by simp [shape])⟩

theorem exact_sourced_iff (fine : ¬ Offends FoundWrong v) (origin : v.origin? = some f) :
    Literal.Exact ⟨v.seen, [f.name, "context"]⟩ ↔ v.namedFields.length = 2 ∧ f.name ≠ "context" := by
  constructor
  · rintro ⟨once, given⟩
    have two := given.length_eq
    rw [List.length_map] at two
    exact ⟨two, by simpa using once⟩
  · rintro ⟨two, other⟩
    have once : [f.name, "context"].Nodup := by simpa using other
    have inside : [f.name, "context"] ⊆ v.namedFields.map (·.name) := by
      simp only [List.cons_subset, List.nil_subset, and_true]
      exact ⟨List.mem_map_of_mem (mem_of_origin? origin).1, context_mem_of_origin? fine origin⟩
    refine ⟨once, ((List.subperm_of_subset once inside).perm_of_length_le ?_).symm⟩
    exact Nat.le_of_eq (by rw [List.length_map, two]; rfl)

theorem exact_internal_iff :
    Literal.Exact ⟨v.seen, ["message", "context"]⟩ ↔ (v.namedFields.map (·.name)).Perm ["message", "context"] := by
  have once : ["message", "context"].Nodup := by decide
  exact and_iff_right once

theorem textOrigins_nodup (distinct : meaning "&'static str" ≠ meaning "String") (item : Item) :
    (item.textOrigins.map meaning).Nodup := by
  unfold Item.textOrigins
  split
  · split_ifs
    · exact .nil
    · simpa using distinct
  · exact .nil

theorem literals_exact_iff (fine : ∀ v ∈ item.variants, ¬ Offends FoundWrong v) :
    (∀ l ∈ (generate item (item.variants.map Variant.seen)).literals, l.Exact) ↔ item.FieldsKnown := by
  constructor
  · intro exact
    refine ⟨fun v member f origin => ?_, fun v internal => ?_⟩
    · exact (exact_sourced_iff (fine v member) origin).mp
        (exact _ (mem_literals_iff.mpr (.inl ⟨v, member, f, origin, rfl⟩)))
    · exact exact_internal_iff.mp (exact _ (mem_literals_iff.mpr (.inr ⟨v, internal, rfl⟩)))
  · intro known l written
    rw [mem_literals_iff] at written
    obtain ⟨v, member, f, origin, rfl⟩ | ⟨v, internal, rfl⟩ := written
    · exact (exact_sourced_iff (fine v member) origin).mpr (known.sourced v member f origin)
    · exact exact_internal_iff.mpr (known.internal v internal)

theorem origins_nodup_iff (distinct : meaning "&'static str" ≠ meaning "String") :
    ((generate item (item.variants.map Variant.seen)).origins.map meaning).Nodup ↔ item.OriginsApart meaning := by
  rw [origins_generate, List.map_append, List.nodup_append, List.Nodup, List.pairwise_map, List.pairwise_filterMap]
  simp only [List.forall_mem_map, List.mem_filterMap]
  constructor
  · rintro ⟨sources, -, text⟩
    exact ⟨sources.imp fun apart s t first second => apart s first t second,
      fun v member s origin => text s ⟨v, member, origin⟩⟩
  · rintro ⟨sources, text⟩
    refine ⟨sources.imp fun apart s first t second => apart s t first second, textOrigins_nodup distinct item, ?_⟩
    rintro s ⟨v, member, origin⟩
    exact text v member s origin

/-- What is accepted has well-formed code exactly if the variants that values are made of have no fields but those
that the code knows of, and no two are made from one type. Neither is looked at before. -/
theorem wellFormed_iff (distinct : meaning "&'static str" ≠ meaning "String") (expanded : expand item = .ok e) :
    e.WellFormed meaning ↔ item.FieldsKnown ∧ item.OriginsApart meaning := by
  obtain ⟨fine, rfl⟩ := generated_of_expand expanded
  rw [← literals_exact_iff fine, ← origins_nodup_iff distinct]
  exact ⟨fun formed => ⟨formed.exact, formed.apart⟩, fun formed => ⟨formed.1, formed.2⟩⟩

/-- An enum as it is meant to be: one cause, and text. -/
def plainError : Item :=
  ⟨.enum, "DemoError", [], [
    ⟨"Io", [], .named [⟨"source", "std::io::Error", []⟩, ⟨"context", "Option<Cow<'static, str>>", []⟩]⟩,
    ⟨"Internal", [], .named [⟨"message", "Cow<'static, str>", []⟩, ⟨"context", "Option<Cow<'static, str>>", []⟩]⟩]⟩

theorem wellFormed_plainError :
    id "&'static str" ≠ id "String" ∧ ∃ e, expand plainError = .ok e ∧ e.WellFormed id := by
  have expands : (expand plainError).toOption.isSome := by decide +kernel
  obtain ⟨e, found⟩ := Option.isSome_iff_exists.mp expands
  have expanded := Outcome.ok_of_toOption found
  have distinct : id "&'static str" ≠ id "String" := by decide
  refine ⟨distinct, e, expanded, (wellFormed_iff distinct expanded).mpr ⟨⟨?_, ?_⟩, ⟨?_, ?_⟩⟩⟩
  · have two : ∀ v ∈ plainError.variants, ∀ f ∈ v.origin?, v.namedFields.length = 2 ∧ f.name ≠ "context" := by
      decide +kernel
    exact two
  · rintro v ⟨⟩
    exact .refl _
  · have single : plainError.variants.Pairwise fun _ w => w.openOrigin? = none := by decide +kernel
    refine single.imp fun none s t _ some => ?_
    cases none.symm.trans some
  · have others : ∀ v ∈ plainError.variants, ∀ s ∈ v.openOrigin?, ∀ t ∈ plainError.textOrigins, id s ≠ id t := by
      decide +kernel
    exact others

/-- An enum whose internal variant has a message, and no context. -/
def messageOnly : Item :=
  ⟨.enum, "DemoError", [], [⟨"Internal", [], .named [⟨"message", "Cow<'static, str>", []⟩]⟩]⟩

theorem malformed_messageOnly : ∃ e, expand messageOnly = .ok e ∧ ¬ e.WellFormed id := by
  have expands : (expand messageOnly).toOption.isSome := by decide +kernel
  obtain ⟨e, found⟩ := Option.isSome_iff_exists.mp expands
  have expanded := Outcome.ok_of_toOption found
  refine ⟨e, expanded, fun formed => ?_⟩
  obtain ⟨-, rfl⟩ := generated_of_expand expanded
  have written := formed.exact _ (mem_literals_iff.mpr (.inr ⟨_, rfl, rfl⟩))
  exact absurd (exact_internal_iff.mp written).length_eq (by decide)

end ServiceKit.ErrorEnum
