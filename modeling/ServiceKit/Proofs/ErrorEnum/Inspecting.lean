import Mathlib.Data.List.Induction
import Mathlib.Tactic.SplitIfs
import ServiceKit.ErrorEnum.Expansion
import ServiceKit.Proofs.Outcome

namespace ServiceKit.ErrorEnum

/-! ### The type of a context -/

namespace TypeExpr
variable {t : TypeExpr} {name : String}

/-- A type is a path that ends in a name, with something behind it. -/
def Ends (t : TypeExpr) (name : String) (args : PathArgs) : Prop :=
  ∃ before, t = .path (before ++ [name]) args

theorem argsOf?_eq_some_iff {args : List TypeArg} : t.argsOf? name = some args ↔ t.Ends name (.angled args) := by
  unfold argsOf? Ends
  split
  · rename_i segments args
    rw [Option.ite_none_right_eq_some, List.getLast?_eq_some_iff]
    constructor
    · rintro ⟨⟨before, rfl⟩, ⟨⟩⟩
      exact ⟨before, rfl⟩
    · rintro ⟨before, ⟨⟩⟩
      exact ⟨⟨before, rfl⟩, rfl⟩
  · rename_i other
    constructor
    · nofun
    · rintro ⟨before, rfl⟩
      exact absurd rfl (other _ _)

theorem endsIn_iff : t.endsIn name = true ↔ ∃ args, t.Ends name args := by
  cases t with
  | path segments args =>
    rw [endsIn, beq_iff_eq, List.getLast?_eq_some_iff]
    constructor
    · rintro ⟨before, rfl⟩
      exact ⟨args, before, rfl⟩
    · rintro ⟨-, before, ⟨⟩⟩
      exact ⟨before, rfl⟩
  | other =>
    constructor
    · nofun
    · rintro ⟨-, -, ⟨⟩⟩

/-- `Option<Cow<'static, str>>`, where each of the three names may be the last one of a longer path. -/
def IsContext (t : TypeExpr) : Prop :=
  ∃ text letters, t.Ends "Option" (.angled [.type text]) ∧
    text.Ends "Cow" (.angled [.lifetime "static", .type letters]) ∧ letters.Ends "str" .none

/-- The same, where each of the names may have more arguments than it takes. -/
def PassesForContext (t : TypeExpr) : Prop :=
  ∃ text letters more further behind, t.Ends "Option" (.angled (.type text :: more)) ∧
    text.Ends "Cow" (.angled (.lifetime "static" :: .type letters :: further)) ∧ letters.Ends "str" behind

theorem IsContext.passes (context : t.IsContext) : t.PassesForContext := by
  obtain ⟨text, letters, outer, inner, last⟩ := context
  exact ⟨text, letters, _, _, _, outer, inner, last⟩

/-- How many arguments the text in a context has. -/
def textArity? (t : TypeExpr) : Option Nat :=
  match t.argsOf? "Option" with
  | some (.type text :: _) => (text.argsOf? "Cow").map List.length
  | _ => none

theorem IsContext.textArity? (context : t.IsContext) : t.textArity? = some 2 := by
  obtain ⟨text, letters, outer, inner, -⟩ := context
  simp [TypeExpr.textArity?, argsOf?_eq_some_iff.mpr outer, argsOf?_eq_some_iff.mpr inner]

theorem isStaticText_iff :
    t.isStaticText = true ↔ ∃ letters further behind,
      t.Ends "Cow" (.angled (.lifetime "static" :: .type letters :: further)) ∧ letters.Ends "str" behind := by
  simp only [← argsOf?_eq_some_iff]
  unfold isStaticText
  split
  · rename_i found
    rw [Bool.and_eq_true, beq_iff_eq, endsIn_iff]
    constructor
    · rintro ⟨rfl, behind, last⟩
      exact ⟨_, _, behind, found, last⟩
    · rintro ⟨letters, further, behind, same, last⟩
      cases found.symm.trans same
      exact ⟨rfl, behind, last⟩
  · rename_i other
    exact ⟨nofun, fun ⟨_, _, _, found, _⟩ => absurd found (other _ _ _)⟩

theorem isOptionalStaticText_iff : t.isOptionalStaticText = true ↔ t.PassesForContext := by
  simp only [PassesForContext, ← argsOf?_eq_some_iff]
  unfold isOptionalStaticText
  split
  · rename_i text more found
    simp only [isStaticText_iff, argsOf?_eq_some_iff]
    constructor
    · rintro ⟨letters, further, behind, inner, last⟩
      exact ⟨text, letters, more, further, behind, argsOf?_eq_some_iff.mp found, inner, last⟩
    · rintro ⟨text, letters, more, further, behind, outer, inner, last⟩
      cases found.symm.trans (argsOf?_eq_some_iff.mpr outer)
      exact ⟨letters, further, behind, inner, last⟩
  · rename_i other
    exact ⟨nofun, fun ⟨_, _, _, _, _, found, _⟩ => absurd found (other _ _)⟩

end TypeExpr

/-! ### What can be wrong with a variant -/

section
variable {fields : List Field} {f : Field} {v : Variant} {d : Diagnostic} {wrong worse : List Field → Field → Prop}

/-- The first of the fields named for the context. -/
def HoldsContext (fields : List Field) (f : Field) : Prop :=
  ∃ before after, fields = before ++ f :: after ∧ f.name = "context" ∧ ∀ other ∈ before, other.name ≠ "context"

/-- A field holds the cause: it is named for it, or marked. -/
def HoldsSource (f : Field) : Prop :=
  f.name = "source" ∨ ∃ a ∈ f.attrs, a.isNamed "source" = true ∨ a.isNamed "from" = true

/-- One of the fields is a context, but not of the type that contexts have. -/
def WrongContext (fields : List Field) (f : Field) : Prop :=
  f ∈ fields ∧ f.name = "context" ∧ ¬ (TypeExpr.ofText f.type).IsContext

/-- A wrong context that a look at the fields finds: it looks at one of them, and not at all of its type. -/
def FoundWrong (fields : List Field) (f : Field) : Prop :=
  HoldsContext fields f ∧ ¬ (TypeExpr.ofText f.type).PassesForContext

/-- What is wrong with a variant, where `wrong` says which of its fields are contexts of a wrong type. -/
inductive Offence (wrong : List Field → Field → Prop) (v : Variant) : Diagnostic → Prop
  | unnamed (shape : ∀ fields, v.shape ≠ .named fields) : Offence wrong v ⟨.unnamedFields, v.name⟩
  | contextType {fields : List Field} {f : Field} (shape : v.shape = .named fields) (bad : wrong fields f) :
      Offence wrong v ⟨.contextType, f.type⟩
  | withoutContext {fields : List Field} {f : Field} (shape : v.shape = .named fields) (member : f ∈ fields)
      (source : HoldsSource f) (missing : ∀ other ∈ fields, other.name ≠ "context") :
      Offence wrong v ⟨.sourceWithoutContext, v.name⟩

/-- There is something wrong with a variant. -/
def Offends (wrong : List Field → Field → Prop) (v : Variant) : Prop :=
  ∃ d, Offence wrong v d

theorem find?_context_eq_some_iff :
    fields.find? (·.name == "context") = some f ↔ HoldsContext fields f := by
  simp only [List.find?_eq_some_iff_append, HoldsContext, beq_iff_eq, Bool.not_eq_true', beq_eq_false_iff_ne]
  constructor
  · rintro ⟨named, before, after, split, others⟩
    exact ⟨before, after, split, named, others⟩
  · rintro ⟨before, after, split, named, others⟩
    exact ⟨named, before, after, split, others⟩

theorem HoldsContext.unique {g : Field} (first : HoldsContext fields f) (second : HoldsContext fields g) : f = g := by
  rw [← find?_context_eq_some_iff] at first second
  exact Option.some.inj (first.symm.trans second)

theorem HoldsContext.mem (context : HoldsContext fields f) : f ∈ fields ∧ f.name = "context" := by
  obtain ⟨before, after, rfl, named, -⟩ := context
  exact ⟨by simp, named⟩

theorem isSource_iff : f.isSource = true ↔ HoldsSource f := by
  simp [Field.isSource, HoldsSource]

theorem FoundWrong.isWrong (found : FoundWrong fields f) : WrongContext fields f :=
  ⟨found.1.mem.1, found.1.mem.2, fun context => found.2 context.passes⟩

theorem Offence.mono (weaker : ∀ fields f, wrong fields f → worse fields f) (offence : Offence wrong v d) :
    Offence worse v d := by
  cases offence with
  | unnamed other => exact .unnamed other
  | contextType shape bad => exact .contextType shape (weaker _ _ bad)
  | withoutContext shape member source missing => exact .withoutContext shape member source missing

/-- With named fields, either a context is wrong, or there is a source and no context. -/
theorem offends_iff_of_named (shape : v.shape = .named fields) :
    Offends wrong v ↔
      (∃ f, wrong fields f) ∨ (∃ f ∈ fields, HoldsSource f) ∧ ∀ other ∈ fields, other.name ≠ "context" := by
  constructor
  · rintro ⟨-, other | ⟨same, bad⟩ | ⟨same, member, source, missing⟩⟩
    · exact absurd shape (other _)
    · cases shape.symm.trans same
      exact Or.inl ⟨_, bad⟩
    · cases shape.symm.trans same
      exact Or.inr ⟨⟨_, member, source⟩, missing⟩
  · rintro (⟨f, bad⟩ | ⟨⟨f, member, source⟩, missing⟩)
    · exact ⟨_, .contextType shape bad⟩
    · exact ⟨_, .withoutContext shape member source missing⟩

/-- With a context that passes, nothing is found wrong. -/
theorem not_offends_of_passes (shape : v.shape = .named fields) (context : HoldsContext fields f)
    (passes : (TypeExpr.ofText f.type).PassesForContext) : ¬ Offends FoundWrong v := by
  rw [offends_iff_of_named shape]
  rintro (⟨g, again, misfit⟩ | ⟨-, missing⟩)
  · exact misfit (context.unique again ▸ passes)
  · exact missing f context.mem.1 context.mem.2

/-! ### Looking at one variant -/

/-- The fields of a variant that have names. -/
def Variant.namedFields (v : Variant) : List Field :=
  match v.shape with
  | .named fields => fields
  | _ => []

/-- What there is to see of a variant. -/
def Variant.seen (v : Variant) : Inspected :=
  ⟨v.name, v.namedFields, sourceField? v.namedFields, v.namedFields.any (·.name == "context"),
    v.attrs.filter (·.isNamed "cfg")⟩

theorem Variant.seen_of_named (shape : v.shape = .named fields) :
    v.seen = ⟨v.name, fields, sourceField? fields, fields.any (·.name == "context"),
      v.attrs.filter (·.isNamed "cfg")⟩ := by
  simp only [Variant.seen, Variant.namedFields, shape]

/-- What there can be of a context. -/
inductive ContextCourse (fields : List Field) : Except Diagnostic (Option Field) → Prop
  | missing (missing : ∀ other ∈ fields, other.name ≠ "context") : ContextCourse fields (.ok none)
  | wrong {f : Field} (found : FoundWrong fields f) : ContextCourse fields (.error ⟨.contextType, f.type⟩)
  | fine {f : Field} (context : HoldsContext fields f) (passes : (TypeExpr.ofText f.type).PassesForContext) :
      ContextCourse fields (.ok (some f))

theorem contextField_course (fields : List Field) : ContextCourse fields (contextField fields) := by
  unfold contextField
  split
  · rename_i missing
    exact .missing fun other member named => by simpa [named] using List.find?_eq_none.mp missing other member
  · rename_i f found
    rw [find?_context_eq_some_iff] at found
    split_ifs with passes
    · exact .fine found (TypeExpr.isOptionalStaticText_iff.mp passes)
    · exact .wrong ⟨found, fun fine => passes (TypeExpr.isOptionalStaticText_iff.mpr fine)⟩

/-- What comes of looking at a variant: what is wrong with it, or what there is to see. -/
inductive InspectCourse (v : Variant) : Except Diagnostic Inspected → Prop
  | refused {d : Diagnostic} (offence : Offence FoundWrong v d) : InspectCourse v (.error d)
  | accepted (fine : ¬ Offends FoundWrong v) : InspectCourse v (.ok v.seen)

theorem inspect_course (v : Variant) : InspectCourse v (inspect v) := by
  unfold inspect
  split
  · rename_i fields shape
    have course := contextField_course fields
    generalize contextField fields = context at course
    cases course with
    | wrong found => exact .refused (.contextType shape found)
    | missing missing =>
      have unseen : fields.any (·.name == "context") = false := by simpa using missing
      simp only [Option.isNone_none, Bool.and_true]
      split_ifs with sourced
      · obtain ⟨f, found⟩ := Option.isSome_iff_exists.mp sourced
        refine .refused (.withoutContext shape (List.mem_of_find?_eq_some found) ?_ missing)
        exact isSource_iff.mp (List.find?_some found)
      · rw [Option.isSome_none, ← unseen, ← Variant.seen_of_named shape]
        refine .accepted ((offends_iff_of_named shape).not.mpr ?_)
        rintro (⟨g, context, -⟩ | ⟨⟨g, member, source⟩, -⟩)
        · exact missing g context.mem.1 context.mem.2
        · exact sourced (List.find?_isSome.mpr ⟨g, member, isSource_iff.mpr source⟩)
    | fine context passes =>
      rename_i f
      have seen : fields.any (·.name == "context") = true :=
        List.any_eq_true.mpr ⟨f, context.mem.1, beq_iff_eq.mpr context.mem.2⟩
      simp only [Option.isNone_some, Bool.and_false, Bool.false_eq_true, if_false]
      rw [Option.isSome_some, ← seen, ← Variant.seen_of_named shape]
      exact .accepted (not_offends_of_passes shape context passes)
  · rename_i other
    exact .refused (.unnamed other)

end

/-! ### Looking at all of them -/

/-- One thing that is wrong with each of the variants that are not as they have to be, in the order of these. -/
inductive Reports (wrong : List Field → Field → Prop) : List Variant → List Diagnostic → Prop
  | nil : Reports wrong [] []
  | offends {v : Variant} {vs : List Variant} {d : Diagnostic} {ds : List Diagnostic} (offence : Offence wrong v d)
      (rest : Reports wrong vs ds) : Reports wrong (v :: vs) (d :: ds)
  | fine {v : Variant} {vs : List Variant} {ds : List Diagnostic} (fine : ¬ Offends wrong v)
      (rest : Reports wrong vs ds) : Reports wrong (v :: vs) ds

section
variable {wrong worse : List Field → Field → Prop} {v : Variant} {vs ws : List Variant} {ds es : List Diagnostic}

namespace Reports

theorem append (first : Reports wrong vs ds) (second : Reports wrong ws es) :
    Reports wrong (vs ++ ws) (ds ++ es) := by
  induction first with
  | nil => exact second
  | offends offence _ ih => exact .offends offence ih
  | fine fine _ ih => exact .fine fine ih

theorem eq_nil_iff (reports : Reports wrong vs ds) : ds = [] ↔ ∀ v ∈ vs, ¬ Offends wrong v := by
  induction reports with
  | nil => simp
  | offends offence _ _ => simpa using fun fine => absurd ⟨_, offence⟩ fine
  | fine fine _ ih => simp [fine, ih]

/-- Where more is wrong, there is more to report. -/
theorem length_le_of_mono (weaker : ∀ fields f, wrong fields f → worse fields f) (reports : Reports wrong vs ds)
    (more : Reports worse vs es) : ds.length ≤ es.length := by
  induction reports generalizing es with
  | nil => exact Nat.zero_le _
  | offends offence _ ih =>
    cases more with
    | offends _ rest => exact Nat.succ_le_succ (ih rest)
    | fine fine => exact absurd ⟨_, offence.mono weaker⟩ fine
  | fine _ _ ih =>
    cases more with
    | offends _ rest => exact Nat.le_succ_of_le (ih rest)
    | fine _ rest => exact ih rest

/-- Where one list reports all of two notions of a wrong context, they agree on which variants offend. -/
theorem offends_of_worse (weaker : ∀ fields f, wrong fields f → worse fields f) (reports : Reports wrong vs ds)
    (same : Reports worse vs ds) : ∀ v ∈ vs, Offends worse v → Offends wrong v := by
  induction reports with
  | nil => simp
  | offends offence _ ih =>
    cases same with
    | offends again rest => exact List.forall_mem_cons.mpr ⟨fun _ => ⟨_, offence⟩, ih rest⟩
    | fine fine => exact absurd ⟨_, offence.mono weaker⟩ fine
  | fine _ reports ih =>
    cases same with
    | offends _ rest => exact absurd (reports.length_le_of_mono weaker rest) (by simp)
    | fine fine rest => exact List.forall_mem_cons.mpr ⟨fun offends => absurd offends fine, ih rest⟩

theorem mono (weaker : ∀ fields f, wrong fields f → worse fields f)
    (agree : ∀ v ∈ vs, Offends worse v → Offends wrong v) (reports : Reports wrong vs ds) :
    Reports worse vs ds := by
  induction reports with
  | nil => exact .nil
  | offends offence _ ih =>
    rw [List.forall_mem_cons] at agree
    exact .offends (offence.mono weaker) (ih agree.2)
  | fine fine _ ih =>
    rw [List.forall_mem_cons] at agree
    exact .fine (fun offends => fine (agree.1 offends)) (ih agree.2)

end Reports

theorem inspectAll_concat (vs : List Variant) (v : Variant) : inspectAll (vs ++ [v]) = (inspectAll vs).add v := by
  simp [inspectAll]

/-- A step of the look keeps to the reports: it adds one for a variant where something is wrong. -/
theorem Inspection.add_reports {i : Inspection} (reports : Reports FoundWrong vs i.diagnostics) :
    Reports FoundWrong (vs ++ [v]) (i.add v).diagnostics := by
  unfold Inspection.add
  have course := inspect_course v
  generalize inspect v = seen at course
  cases course with
  | refused offence => exact reports.append (.offends offence .nil)
  | accepted fine => simpa using reports.append (.fine fine .nil)

theorem inspectAll_reports (vs : List Variant) : Reports FoundWrong vs (inspectAll vs).diagnostics := by
  induction vs using List.reverseRecOn with
  | nil => exact .nil
  | append_singleton vs v ih =>
    rw [inspectAll_concat]
    exact Inspection.add_reports ih

end

/-! ### The verdict on an item -/

/-- What the expansion of an item comes to: one that is no enum is refused as such, and an enum for what is wrong
with its variants, if something is. -/
structure Judges (wrong : List Field → Field → Prop) (item : Item) : Prop where
  otherKind : item.kind ≠ .enum → expand item = .error [⟨.notEnum, item.name⟩]
  accepts : item.kind = .enum → ((∃ e, expand item = .ok e) ↔ ∀ v ∈ item.variants, ¬ Offends wrong v)
  reports : item.kind = .enum → ∀ ds, expand item = .error ds → Reports wrong item.variants ds

section
variable {item : Item}

theorem expand_of_ne_enum (kind : item.kind ≠ .enum) : expand item = .error [⟨.notEnum, item.name⟩] := by
  unfold expand
  split
  · rename_i enum
    exact absurd enum kind
  · rfl

theorem expand_of_enum (kind : item.kind = .enum) :
    expand item =
      if (inspectAll item.variants).diagnostics.isEmpty then .ok (generate item (inspectAll item.variants).variants)
      else .error (inspectAll item.variants).diagnostics := by
  rw [expand, kind]

/-- Every item is judged by what is found wrong in it. -/
theorem judges_foundWrong (item : Item) : Judges FoundWrong item where
  otherKind := expand_of_ne_enum
  accepts kind := by
    rw [expand_of_enum kind, ← (inspectAll_reports item.variants).eq_nil_iff, ← List.isEmpty_iff]
    split_ifs with none
    · exact ⟨fun _ => none, fun _ => ⟨_, rfl⟩⟩
    · exact ⟨nofun, fun isNone => absurd isNone none⟩
  reports kind ds refused := by
    rw [expand_of_enum kind] at refused
    split_ifs at refused
    cases refused
    exact inspectAll_reports item.variants

/-- In no variant is there a wrong context with nothing found wrong: no type of a context has more arguments in it
than it takes, and none of a wrong type stands behind another context. -/
def LooksSuffice (item : Item) : Prop :=
  ∀ v ∈ item.variants, ∀ fields, v.shape = .named fields → (∃ f, WrongContext fields f) → ∃ f, FoundWrong fields f

theorem LooksSuffice.offends {v : Variant} (suffice : LooksSuffice item) (member : v ∈ item.variants)
    (offends : Offends WrongContext v) : Offends FoundWrong v := by
  obtain ⟨-, other | ⟨shape, wrong⟩ | ⟨shape, member, source, missing⟩⟩ := offends
  · exact ⟨_, .unnamed other⟩
  · obtain ⟨f, found⟩ := suffice v member _ shape ⟨_, wrong⟩
    exact ⟨_, .contextType shape found⟩
  · exact ⟨_, .withoutContext shape member source missing⟩

/-- Every item is judged by what is found wrong in it, and this is all that is wrong just where looks suffice. -/
theorem judges_wrongContext_iff (item : Item) :
    Judges FoundWrong item ∧ (Judges WrongContext item ↔ (item.kind = .enum → LooksSuffice item)) := by
  have judged := judges_foundWrong item
  have weaker : ∀ fields f, FoundWrong fields f → WrongContext fields f := fun _ _ => FoundWrong.isWrong
  refine ⟨judged, ?_, ?_⟩
  · rintro strict kind v member fields shape ⟨f, wrong⟩
    have offends : Offends WrongContext v := ⟨_, .contextType shape wrong⟩
    -- A report that is right by both notions, or an expansion, settles that the look finds something too.
    have found : Offends FoundWrong v := by
      cases verdict : expand item with
      | ok e => exact absurd offends ((strict.accepts kind).mp ⟨e, verdict⟩ v member)
      | error ds =>
        exact (judged.reports kind ds verdict).offends_of_worse weaker (strict.reports kind ds verdict) v member offends
    obtain found | ⟨-, missing⟩ := (offends_iff_of_named shape).mp found
    · exact found
    · exact absurd wrong.2.1 (missing f wrong.1)
  · intro suffice
    have agree (kind : item.kind = .enum) : ∀ v ∈ item.variants, Offends WrongContext v → Offends FoundWrong v :=
      fun _ member => (suffice kind).offends member
    refine ⟨judged.otherKind, fun kind => ?_, fun kind ds refused => ?_⟩
    · rw [judged.accepts kind]
      exact forall₂_congr fun v member => not_congr ⟨fun ⟨d, offence⟩ => ⟨d, offence.mono weaker⟩, agree kind v member⟩
    · exact (judged.reports kind ds refused).mono weaker (agree kind)

/-- Fields with a context whose text has one argument too many. -/
def looseFields : List Field :=
  [⟨"message", "Cow<'static, str>", []⟩, ⟨"context", "Option<Cow<'static, str, u8>>", []⟩]

def looseContext : Item :=
  ⟨.enum, "DemoError", [], [⟨"A", [], .named looseFields⟩]⟩

theorem not_judges_looseContext : ¬ Judges WrongContext looseContext := by
  intro strict
  have expands : (expand looseContext).toOption.isSome := by decide +kernel
  obtain ⟨e, found⟩ := Option.isSome_iff_exists.mp expands
  have wrong : WrongContext looseFields ⟨"context", "Option<Cow<'static, str, u8>>", []⟩ := by
    refine ⟨List.mem_cons_of_mem _ (List.mem_singleton.mpr rfl), rfl, fun context => ?_⟩
    have three : (TypeExpr.ofText "Option<Cow<'static, str, u8>>").textArity? = some 3 := by decide +kernel
    exact absurd (three.symm.trans context.textArity?) (by decide)
  exact (strict.accepts rfl).mp ⟨e, Outcome.ok_of_toOption found⟩ _ (List.mem_singleton.mpr rfl)
    ⟨_, .contextType rfl wrong⟩

end

end ServiceKit.ErrorEnum
