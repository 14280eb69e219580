import Mathlib.Order.Bounds.Basic
import ServiceKit.Proofs.Config.Shared
import ServiceKit.Proofs.Hcl.Decoding

namespace ServiceKit

/-- A value that begins with no scheme, whatever white space is in front of it. -/
def Value.IsLiteral (s : String) : Prop :=
  ∀ scheme ∈ ["env://", "file://"], ¬ scheme.toList <+: (Text.trim s).toList

/-- A literal stands for itself, blanks included. -/
theorem Value.resolve_of_isLiteral {env : String → Option String} {fs : FileSystem} {s : String}
    (literal : IsLiteral s) : resolve env fs s = .ok s := by
  have noVariable := Text.stripLead?_eq_none_iff.mpr (literal "env://" List.mem_cons_self)
  have noFile := Text.stripLead?_eq_none_iff.mpr (literal "file://" (by simp))
  simp only [resolve, Indirection.ofText, noVariable, noFile]

namespace Seal
variable {resolve : String → Except ValueError String} {kind : String}
variable {config front after : List (String × String)}

/-- The fields of a seal are in the order of their names, as the reader of a document puts them. -/
theorem sorted_of_ofBlock {block : String} {index : Nat} {b : Hcl.Block} {s : Seal}
    (ran : ofBlock block index b = .ok s) : Json.Sorted s.config := by
  obtain ⟨stanza, -, atBody, read⟩ := ofBlock_ok ran
  have sorted := Hcl.sorted_fields? (Stanza.ofBody_ok atBody).2
  rw [read.config, configOf, Json.Sorted, List.map_map]
  exact sorted.filter _

/-- A value and what is put under the same key in its place. -/
structure Replaced (resolve : String → Except ValueError String) (old new : String × String) : Prop where
  key : new.1 = old.1
  value : resolve old.2 = .ok new.2

theorem names_replaced (replaced : List.Forall₂ (Replaced resolve) front after) :
    after.map Prod.fst = front.map Prod.fst := by
  induction replaced with
  | nil => rfl
  | cons first _ ih => rw [List.map_cons, List.map_cons, first.key, ih]

theorem exists_replaced {key value : String} (replaced : List.Forall₂ (Replaced resolve) front after)
    (member : (key, value) ∈ front) : ∃ text, resolve value = .ok text ∧ (key, text) ∈ after := by
  obtain ⟨⟨_, text⟩, inAfter, rfl, stands⟩ := Outcome.exists_of_mem_right replaced.flip member
  exact ⟨text, stands, inAfter⟩

theorem replaced_eq_iff (replaced : List.Forall₂ (Replaced resolve) front after) :
    after = front ↔ ∀ f ∈ front, resolve f.2 = .ok f.2 := by
  induction replaced with
  | nil => simp
  | @cons old new _ _ first _ ih =>
    rw [List.cons.injEq, ih, List.forall_mem_cons]
    refine and_congr_left' ?_
    rw [first.value, Except.ok.injEq, Prod.ext_iff]
    exact and_iff_right first.key

/-- How far the values of a seal get: all are replaced, or those in front of the first that stands for
nothing. It and what follows it are left as they were. -/
inductive Course (resolve : String → Except ValueError String) (kind : String) :
    List (String × String) → List (String × String) → Except ConfigError Unit → Prop where
  | done {config after : List (String × String)} (replaced : List.Forall₂ (Replaced resolve) config after) :
      Course resolve kind config after (.ok ())
  | stopped {front after rest : List (String × String)} {key value : String} {fault : ValueError}
      (replaced : List.Forall₂ (Replaced resolve) front after) (refused : resolve value = .error fault) :
      Course resolve kind (front ++ (key, value) :: rest) (after ++ (key, value) :: rest)
        (.error ⟨.value fault, some (kind ++ "." ++ key)⟩)

theorem resolveConfig_course (resolve : String → Except ValueError String) (kind : String)
    (config : List (String × String)) :
    Course resolve kind config (resolveConfig resolve kind config).1 (resolveConfig resolve kind config).2 := by
  induction config with
  | nil => exact .done .nil
  | cons field rest ih =>
    obtain ⟨key, value⟩ := field
    unfold resolveConfig
    cases atKey : resolve value with
    | error fault => exact .stopped .nil atKey
    | ok text =>
      have first : Replaced resolve (key, value) (key, text) := ⟨rfl, atKey⟩
      generalize resolveConfig resolve kind rest = ran at ih ⊢
      obtain ⟨later, result⟩ := ran
      cases ih with
      | done replaced => exact .done (.cons first replaced)
      | stopped replaced refused => exact .stopped (.cons first replaced) refused

/-- The keys whose values cannot be resolved, each value taken by itself. -/
def unresolved (resolve : String → Except ValueError String) (config : List (String × String)) : Set String :=
  {key | ∃ value fault, (key, value) ∈ config ∧ resolve value = .error fault}

theorem unresolved_eq_empty (replaced : List.Forall₂ (Replaced resolve) config after) :
    unresolved resolve config = ∅ := by
  refine Set.eq_empty_iff_forall_notMem.mpr ?_
  rintro key ⟨value, fault, member, refused⟩
  obtain ⟨text, stands, -⟩ := exists_replaced replaced member
  cases refused.symm.trans stands

/-- Where the first value stands that cannot be resolved, there is the least of the keys to blame. -/
theorem isLeast_unresolved {rest : List (String × String)} {key value : String} {fault : ValueError}
    (sorted : Json.Sorted (front ++ (key, value) :: rest))
    (replaced : List.Forall₂ (Replaced resolve) front after) (refused : resolve value = .error fault) :
    IsLeast (unresolved resolve (front ++ (key, value) :: rest)) key := by
  refine ⟨⟨value, fault, List.mem_append_right front List.mem_cons_self, refused⟩, ?_⟩
  rintro other ⟨text, cause, member, unread⟩
  rcases List.mem_append.mp member with inFront | later
  · obtain ⟨found, stands, -⟩ := exists_replaced replaced inFront
    cases unread.symm.trans stands
  · rcases List.mem_cons.mp later with here | inRest
    · exact (Prod.ext_iff.mp here).1.ge
    · exact (sorted.around.2 _ inRest).le

variable {env : String → Option String} {fs : FileSystem} {s left : Seal}

/-- Resolving touches nothing of a seal but its values. -/
theorem resolvePaths_course {result : Except ConfigError Unit} (ran : s.resolvePaths env fs = (left, result)) :
    ∃ config, left = { s with config } ∧ Course (Value.resolve env fs) s.kind s.config config result := by
  cases ran
  exact ⟨_, rfl, resolveConfig_course (Value.resolve env fs) s.kind s.config⟩

/-- The values of a seal are resolved exactly if each of them can be resolved by itself. Then each stands
for what it alone stands for, a literal for itself, and nothing else of the seal has changed. Otherwise the
least of the keys that cannot be resolved is blamed, with the error that its value gives by itself. -/
theorem resolvePaths_valuewise {result : Except ConfigError Unit} (sorted : Json.Sorted s.config)
    (ran : s.resolvePaths env fs = (left, result)) :
    (result = .ok () ↔ ∀ f ∈ s.config, ∃ text, Value.resolve env fs f.2 = .ok text) ∧
    (result = .ok () →
      left = { s with config := left.config } ∧ left.config.map Prod.fst = s.config.map Prod.fst ∧
      ∀ f ∈ s.config, ∃ text, Value.resolve env fs f.2 = .ok text ∧ (f.1, text) ∈ left.config ∧
        (Value.IsLiteral f.2 → text = f.2)) ∧
    ((unresolved (Value.resolve env fs) s.config).Nonempty →
      ∃ key value fault, IsLeast (unresolved (Value.resolve env fs) s.config) key ∧
        (key, value) ∈ s.config ∧ Value.resolve env fs value = .error fault ∧
        result = .error ⟨.value fault, some (s.kind ++ "." ++ key)⟩) := by
  obtain ⟨config, rfl, course⟩ := resolvePaths_course ran
  generalize s.config = before at sorted course
  cases course with
  | done replaced =>
    have each : ∀ f ∈ before, ∃ text, Value.resolve env fs f.2 = .ok text ∧ (f.1, text) ∈ config :=
      fun f member => exists_replaced replaced member
    refine ⟨iff_of_true rfl fun f member => ?_, fun _ => ⟨rfl, names_replaced replaced, fun f member => ?_⟩, ?_⟩
    · obtain ⟨text, stands, -⟩ := each f member
      exact ⟨text, stands⟩
    · obtain ⟨text, stands, inConfig⟩ := each f member
      refine ⟨text, stands, inConfig, fun literal => ?_⟩
      exact Except.ok.inj (stands.symm.trans (Value.resolve_of_isLiteral literal))
    · rw [unresolved_eq_empty replaced]
      exact fun none => absurd none Set.not_nonempty_empty
  | @stopped front after rest key value fault replaced refused =>
    have inConfig : (key, value) ∈ front ++ (key, value) :: rest :=
      List.mem_append_right front List.mem_cons_self
    refine ⟨iff_of_false nofun fun all => ?_, nofun, fun _ => ?_⟩
    · obtain ⟨text, stands⟩ := all _ inConfig
      cases refused.symm.trans stands
    · exact ⟨key, value, fault, isLeast_unresolved sorted replaced refused, inConfig, refused, rfl⟩

/-- A seal of which one value names no scheme, and two name variables. -/
def variableSeal : Seal :=
  ⟨"aead", [], false, none, none, [("key", "env://KEY"), ("other", " literal "), ("token", " env://TOKEN")]⟩

theorem ofBlock_variableSeal :
    ofBlock "kms" 0 ⟨"kms", ["aead"], [.attr "token" (.str " env://TOKEN"), .attr "key" (.str "env://KEY"),
      .attr "other" (.str " literal ")]⟩ = .ok variableSeal :=
  Outcome.ok_of_toOption (by decide +kernel)

/-- With its variables set the seal is resolved, and with none of them the first of two keys is blamed. -/
theorem resolvePaths_variableSeal :
    (variableSeal.resolvePaths some ⟨[]⟩).2 = .ok () ∧
      ("token", "TOKEN") ∈ (variableSeal.resolvePaths some ⟨[]⟩).1.config ∧
      ("other", " literal ") ∈ (variableSeal.resolvePaths some ⟨[]⟩).1.config ∧
      IsLeast (unresolved (Value.resolve (fun _ => none) ⟨[]⟩) variableSeal.config) "key" ∧
      ∃ fault, (variableSeal.resolvePaths (fun _ => none) ⟨[]⟩).2 = .error ⟨.value fault, some "aead.key"⟩ := by
  have sorted := sorted_of_ofBlock ofBlock_variableSeal
  obtain ⟨success, kept, -⟩ := resolvePaths_valuewise sorted (Eq.refl (variableSeal.resolvePaths some ⟨[]⟩))
  obtain ⟨-, -, blamed⟩ :=
    resolvePaths_valuewise sorted (Eq.refl (variableSeal.resolvePaths (fun _ => none) ⟨[]⟩))
  have set : ∀ f ∈ variableSeal.config, ∃ text, Value.resolve some ⟨[]⟩ f.2 = .ok text := by
    simp only [variableSeal, List.forall_mem_cons, List.not_mem_nil, IsEmpty.forall_iff, implies_true, and_true]
    exact ⟨⟨"KEY", rfl⟩, ⟨" literal ", rfl⟩, ⟨"TOKEN", rfl⟩⟩
  obtain ⟨-, -, each⟩ := kept (success.mpr set)
  obtain ⟨text, atToken, token, -⟩ := each ("token", " env://TOKEN") (by decide)
  obtain ⟨other, -, literal, same⟩ := each ("other", " literal ") (by decide)
  cases (rfl : Value.resolve some ⟨[]⟩ " env://TOKEN" = .ok "TOKEN").symm.trans atToken
  cases same (by unfold Value.IsLiteral; decide)
  obtain ⟨key, value, fault, least, -, -, failed⟩ := blamed ⟨"key", "env://KEY", _, by decide, rfl⟩
  have place : some "aead.key" = some (variableSeal.kind ++ "." ++ key) :=
    congrArg ConfigError.context (Except.error.inj failed)
  obtain rfl : "key" = key := (String.append_right_inj "aead.").mp (Option.some.inj place)
  exact ⟨success.mpr set, token, literal, least, fault, failed⟩

/-- Resolving that fails has changed the values in front of the least key that cannot be resolved, each to
what it stands for. That key and all that follow it have their values still. So the seal is left as it was
only if every value in front of that key stands for itself. -/
theorem resolvePaths_stopped {e : ConfigError} (sorted : Json.Sorted s.config)
    (failed : s.resolvePaths env fs = (left, .error e)) :
    ∃ key, e.context = some (s.kind ++ "." ++ key) ∧
      IsLeast (unresolved (Value.resolve env fs) s.config) key ∧
      left = { s with config := left.config } ∧ left.config.map Prod.fst = s.config.map Prod.fst ∧
      (∀ f, key ≤ f.1 → (f ∈ left.config ↔ f ∈ s.config)) ∧
      (∀ f ∈ s.config, f.1 < key → ∃ text, Value.resolve env fs f.2 = .ok text ∧ (f.1, text) ∈ left.config) ∧
      (left = s ↔ ∀ f ∈ s.config, f.1 < key → Value.resolve env fs f.2 = .ok f.2) := by
  obtain ⟨config, rfl, course⟩ := resolvePaths_course failed
  have same : { s with config } = s ↔ config = s.config := by
    obtain ⟨kind, purpose, disabled, name, priority, before⟩ := s
    simp
  rw [same]
  generalize s.config = before at sorted course
  cases course with
  | @stopped front after rest key value fault replaced refused =>
    have names : (after ++ (key, value) :: rest).map Prod.fst = (front ++ (key, value) :: rest).map Prod.fst := by
      rw [List.map_append, names_replaced replaced, List.map_append]
    have sortedAfter : Json.Sorted (after ++ (key, value) :: rest) := by rwa [Json.Sorted, names]
    refine ⟨key, rfl, isLeast_unresolved sorted replaced refused, rfl, names, fun f least => ?_,
      fun f member less => ?_, ?_⟩
    · rw [sortedAfter.mem_iff_of_le least, sorted.mem_iff_of_le least]
    · obtain ⟨text, stands, inAfter⟩ := exists_replaced replaced ((sorted.mem_iff_of_lt less).mp member)
      exact ⟨text, stands, List.mem_append_left _ inAfter⟩
    · rw [List.append_left_inj, replaced_eq_iff replaced]
      exact ⟨fun all f member less => all f ((sorted.mem_iff_of_lt less).mp member),
        fun all f member => all f (List.mem_append_left _ member) (sorted.around.1 f member)⟩

/-- The first of two variables is set. -/
def keyAlone (name : String) : Option String :=
  if name = "KEY" then some "k3y" else none

theorem resolvePaths_keyAlone :
    variableSeal.resolvePaths keyAlone ⟨[]⟩ =
      ({ variableSeal with config := [("key", "k3y"), ("other", " literal "), ("token", " env://TOKEN")] },
        .error ⟨.value ⟨.missingVariable "TOKEN", none⟩, some "aead.token"⟩) :=
  rfl

theorem stopped_keyAlone :
    ∃ left e, variableSeal.resolvePaths keyAlone ⟨[]⟩ = (left, .error e) ∧ e.context = some "aead.token" ∧
      ("token", " env://TOKEN") ∈ left.config ∧ ("key", "k3y") ∈ left.config := by
  obtain ⟨key, blamed, -, -, -, kept, replaced, -⟩ :=
    resolvePaths_stopped (sorted_of_ofBlock ofBlock_variableSeal) resolvePaths_keyAlone
  obtain rfl : "token" = key := (String.append_right_inj "aead.").mp (Option.some.inj blamed)
  obtain ⟨text, stands, inLeft⟩ := replaced ("key", "env://KEY") (by decide) (by decide)
  cases (rfl : Value.resolve keyAlone ⟨[]⟩ "env://KEY" = .ok "k3y").symm.trans stands
  exact ⟨_, _, resolvePaths_keyAlone, blamed, (kept ("token", " env://TOKEN") (by decide)).mpr (by decide), inLeft⟩

/-- The value that stands for the variable that is set stays behind in its place. -/
theorem changed_keyAlone :
    ¬ ∀ left e, variableSeal.resolvePaths keyAlone ⟨[]⟩ = (left, .error e) →
      left.config = variableSeal.config := by
  intro unchanged
  have same := unchanged _ _ resolvePaths_keyAlone
  revert same
  decide

end Seal

end ServiceKit
