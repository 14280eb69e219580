import Mathlib.Data.List.Forall2
import ServiceKit.Config.Error

namespace ServiceKit
variable {α β ε δ : Type}

namespace Outcome

theorem bind_ok {x : Except ε α} {f : α → Except ε β} {b : β} (ran : x >>= f = .ok b) :
    ∃ a, x = .ok a ∧ f a = .ok b := by
  cases x with
  | error e => cases ran
  | ok a => exact ⟨a, rfl, ran⟩

theorem map_ok {x : Except ε α} {f : α → β} {b : β} (ran : x.map f = .ok b) : ∃ a, x = .ok a ∧ f a = b := by
  cases x with
  | error e => cases ran
  | ok a => exact ⟨a, rfl, Except.ok.inj ran⟩

theorem ok_of_toOption {x : Except ε α} {a : α} (found : x.toOption = some a) : x = .ok a := by
  cases x with
  | error e => cases found
  | ok b => exact congrArg Except.ok (Option.some.inj found)

theorem mapError_ok {x : Except ε α} {f : ε → δ} {a : α} (ran : x.mapError f = .ok a) : x = .ok a := by
  cases x with
  | error e => cases ran
  | ok b => exact congrArg Except.ok (Except.ok.inj ran)

/-- A list of results has one for each member, in order. -/
theorem mapM_ok {f : α → Except ε β} {xs : List α} {ys : List β} (ran : xs.mapM f = .ok ys) :
    List.Forall₂ (fun x y => f x = .ok y) xs ys := by
  induction xs generalizing ys with
  | nil =>
    cases ran
    exact .nil
  | cons x rest ih =>
    rw [List.mapM_cons] at ran
    obtain ⟨y, first, ran⟩ := bind_ok ran
    obtain ⟨more, later, ran⟩ := bind_ok ran
    cases ran
    exact .cons first (ih later)

theorem mapM_append_ok {f : α → Except ε β} {xs ys : List α} {as bs : List β} (first : xs.mapM f = .ok as)
    (later : ys.mapM f = .ok bs) : (xs ++ ys).mapM f = .ok (as ++ bs) := by
  rw [List.mapM_append, first, later]
  rfl

/-- A result for its error alone. -/
def done (x : Except ε α) : Except ε Unit :=
  x.map fun _ => ()

/-- Of a run of two steps only the errors count if the second is carefree of what the first gave. -/
theorem done_bind {x : Except ε α} {f : α → Except ε β} {y : Except ε Unit} (rest : ∀ a, done (f a) = y) :
    done (x >>= f) = done x >>= fun _ => y := by
  cases x with
  | error e => rfl
  | ok a => exact rest a

theorem done_bind_pure (x : Except ε α) (f : α → β) : done (x >>= fun a => pure (f a)) = done x := by
  cases x <;> rfl

theorem done_eq_error {x : Except ε α} {e : ε} (failed : done x = .error e) : x = .error e := by
  cases x with
  | error fault => exact congrArg Except.error (Except.error.inj failed)
  | ok a => cases failed

theorem done_eq_error_iff {x : Except ε α} {e : ε} : done x = .error e ↔ x = .error e :=
  ⟨done_eq_error, congrArg done⟩

theorem done_eq_ok {x : Except ε α} (ran : done x = .ok ()) : ∃ a, x = .ok a := by
  obtain ⟨a, found, -⟩ := map_ok ran
  exact ⟨a, found⟩

theorem done_eq_ok_iff {x : Except ε α} : done x = .ok () ↔ ∃ a, x = .ok a := by
  refine ⟨done_eq_ok, ?_⟩
  rintro ⟨a, rfl⟩
  rfl

theorem done_mapM (f : α → Except ε β) (xs : List α) : done (xs.mapM f) = forM xs fun x => done (f x) := by
  induction xs with
  | nil => rfl
  | cons x rest ih =>
    rw [List.mapM_cons, List.forM_cons, ← ih]
    exact done_bind fun b => done_bind_pure _ _

theorem bind_error {x : Except ε α} {f : α → Except ε β} {e : ε} (failed : x >>= f = .error e) :
    x = .error e ∨ ∃ a, x = .ok a ∧ f a = .error e := by
  cases x with
  | error fault => exact Or.inl (congrArg Except.error (Except.error.inj failed))
  | ok a => exact Or.inr ⟨a, rfl, failed⟩

/-- A list of steps fails with its first failing step. -/
theorem forM_error {f : α → Except ε Unit} {xs : List α} {e : ε} (failed : forM xs f = .error e) :
    ∃ before x after, xs = before ++ x :: after ∧ (∀ y ∈ before, f y = .ok ()) ∧ f x = .error e := by
  induction xs with
  | nil => cases failed
  | cons x rest ih =>
    rw [List.forM_cons] at failed
    rcases bind_error failed with first | ⟨⟨⟩, passed, later⟩
    · exact ⟨[], x, rest, rfl, by simp, first⟩
    · obtain ⟨before, y, after, rfl, passes, atStep⟩ := ih later
      exact ⟨x :: before, y, after, rfl, List.forall_mem_cons.mpr ⟨passed, passes⟩, atStep⟩

theorem forM_ok {f : α → Except ε Unit} {xs : List α} (ran : forM xs f = .ok ()) :
    ∀ x ∈ xs, f x = .ok () := by
  induction xs with
  | nil => simp
  | cons x rest ih =>
    rw [List.forM_cons] at ran
    obtain ⟨⟨⟩, first, later⟩ := bind_ok ran
    exact List.forall_mem_cons.mpr ⟨first, ih later⟩

theorem forM_of_ok {f : α → Except ε Unit} {xs : List α} (passes : ∀ x ∈ xs, f x = .ok ()) :
    forM xs f = .ok () := by
  induction xs with
  | nil => rfl
  | cons x rest ih =>
    obtain ⟨first, later⟩ := List.forall_mem_cons.mp passes
    rw [List.forM_cons, first]
    exact ih later

theorem forM_flatMap {f : β → Except ε Unit} {g : α → List β} {xs : List α} :
    forM (xs.flatMap g) f = forM xs fun x => forM (g x) f := by
  induction xs with
  | nil => rfl
  | cons x rest ih => rw [List.flatMap_cons, List.forM_append, List.forM_cons, ih]

theorem forM_eq_error_iff {f : α → Except ε Unit} {xs : List α} {e : ε} :
    forM xs f = .error e ↔
      ∃ before x after, xs = before ++ x :: after ∧ (∀ y ∈ before, f y = .ok ()) ∧ f x = .error e := by
  refine ⟨forM_error, ?_⟩
  rintro ⟨before, x, after, rfl, passes, atStep⟩
  rw [List.forM_append, forM_of_ok passes]
  change forM (x :: after) f = .error e
  rw [List.forM_cons, atStep]
  rfl

theorem exists_of_mem_right {R : α → β → Prop} {xs : List α} {ys : List β} {y : β}
    (related : List.Forall₂ R xs ys) (member : y ∈ ys) : ∃ x ∈ xs, R x y := by
  induction related with
  | nil => simp at member
  | cons head _ ih =>
    rcases List.mem_cons.mp member with rfl | later
    · exact ⟨_, List.mem_cons_self, head⟩
    · obtain ⟨x, inRest, found⟩ := ih later
      exact ⟨x, List.mem_cons_of_mem _ inRest, found⟩

theorem exists_getElem?_right {R : α → β → Prop} {xs : List α} {ys : List β} {i : Nat} {x : α}
    (related : List.Forall₂ R xs ys) (atIndex : xs[i]? = some x) : ∃ y, ys[i]? = some y ∧ R x y := by
  induction related generalizing i with
  | nil => simp at atIndex
  | cons head _ ih =>
    cases i with
    | zero =>
      obtain rfl := Option.some.inj atIndex
      exact ⟨_, rfl, head⟩
    | succ i => exact ih atIndex

/-- Two results that are the same, or both none, whatever the errors. -/
def Agree (x y : Except ε α) : Prop :=
  x.toOption = y.toOption

namespace Agree

theorem bind {x y : Except ε α} {f g : α → Except ε β} (first : Agree x y)
    (rest : ∀ a, Agree (f a) (g a)) : Agree (x >>= f) (y >>= g) := by
  cases x <;> cases y <;> cases first
  · rfl
  · exact rest _

theorem ok {x y : Except ε α} {a : α} (same : Agree x y) (ran : x = .ok a) : y = .ok a :=
  ok_of_toOption (same.symm.trans (congrArg Except.toOption ran))

end Agree

/-- Two results that are the same, or errors that are related. -/
inductive Alike (related : ε → ε → Prop) : Except (Stop ε) α → Except (Stop ε) α → Prop where
  | same (x : Except (Stop ε) α) : Alike related x x
  | refused {e f : ε} (errors : related e f) : Alike related (.error (.error e)) (.error (.error f))

namespace Alike
variable {related : ε → ε → Prop} {x y : Except (Stop ε) α}

theorem bind {f g : α → Except (Stop ε) β} (first : Alike related x y)
    (rest : ∀ a, Alike related (f a) (g a)) : Alike related (x >>= f) (y >>= g) := by
  cases first with
  | same =>
    cases x with
    | ok a => exact rest a
    | error stop => exact .same _
  | refused errors => exact .refused errors

theorem map (f : α → β) (alike : Alike related x y) : Alike related (x.map f) (y.map f) := by
  cases alike with
  | same => exact .same _
  | refused errors => exact .refused errors

end Alike

/-- Why a computation crashed, if it did. -/
def crash? : Except (Stop ε) α → Option Crash
  | .error (.crash c) => some c
  | .error (.error _) => none
  | .ok _ => none

theorem eq_crash_of_crash? {x : Except (Stop ε) α} {c : Crash} (found : crash? x = some c) :
    x = .error (.crash c) := by
  cases x with
  | ok a => cases found
  | error stop =>
    cases stop with
    | error e => cases found
    | crash reason =>
      cases found
      rfl

/-- A computation that gives a value or an error, and does not crash. -/
def Answers (x : Except (Stop ε) α) : Prop :=
  ∀ c, x ≠ .error (.crash c)

namespace Answers

theorem ok (a : α) : Answers (.ok a : Except (Stop ε) α) :=
  nofun

theorem error (e : ε) : Answers (.error (.error e) : Except (Stop ε) α) :=
  nofun

theorem fail {stop : Stop ε} (answers : Answers (.error stop : Except (Stop ε) α)) :
    Answers (.error stop : Except (Stop ε) β) :=
  fun c crashed => answers c (congrArg Except.error (Except.error.inj crashed))

theorem bind {x : Except (Stop ε) α} {f : α → Except (Stop ε) β} (first : Answers x)
    (rest : ∀ a, Answers (f a)) : Answers (x >>= f) := by
  intro c crashed
  rcases bind_error crashed with atFirst | ⟨a, -, atRest⟩
  · exact first c atFirst
  · exact rest a c atRest

theorem map {x : Except (Stop ε) α} (answers : Answers x) (f : α → β) : Answers (x.map f) := by
  cases x with
  | ok a => exact ok (f a)
  | error stop =>
    cases stop with
    | error e => exact error e
    | crash c => exact absurd rfl (answers c)

theorem mapError (x : Except ε α) (f : ε → δ) : Answers (x.mapError fun e => .error (f e)) := by
  cases x with
  | ok a => exact ok a
  | error e => exact error (f e)

end Answers

/-- Two computations that crash together, and for the same reason. -/
def SameCrash (x : Except (Stop ε) α) (y : Except (Stop ε) β) : Prop :=
  ∀ c, x = .error (.crash c) ↔ y = .error (.crash c)

namespace SameCrash

theorem of_answers {x : Except (Stop ε) α} {y : Except (Stop ε) β} (first : Answers x) (second : Answers y) :
    SameCrash x y :=
  fun c => iff_of_false (first c) (second c)

theorem done_left {x : Except (Stop ε) α} {y : Except (Stop ε) β} (same : SameCrash x y) :
    SameCrash (done x) y := by
  intro c
  rw [done_eq_error_iff, same c]

/-- What follows a computation and cannot crash is of no account. -/
theorem followed {x : Except (Stop ε) α} {f : α → Except (Stop ε) β} {y : Except (Stop ε) δ}
    (same : SameCrash x y) (rest : ∀ a, Answers (f a)) : SameCrash (x >>= f) y := by
  intro c
  rw [← same c]
  constructor
  · intro crashed
    rcases bind_error crashed with atFirst | ⟨a, -, atRest⟩
    · exact atFirst
    · exact absurd atRest (rest a c)
  · rintro rfl
    rfl

theorem bind {x : Except (Stop ε) α} {f : α → Except (Stop ε) β} {y : Except (Stop ε) Unit}
    (rest : ∀ a, SameCrash (f a) y) : SameCrash (x >>= f) (done x >>= fun _ => y) := by
  cases x with
  | ok a => exact rest a
  | error stop =>
    intro c
    change Except.error stop = _ ↔ Except.error stop = _
    simp

end SameCrash

/-- Where a reader does not care for the number of a member, it does not matter where numbering begins. -/
theorem mapM_zipIdx_agree {f : α × Nat → Except ε β} (careless : ∀ a i j, Agree (f (a, i)) (f (a, j)))
    (xs : List α) (i j : Nat) : Agree ((xs.zipIdx i).mapM f) ((xs.zipIdx j).mapM f) := by
  induction xs generalizing i j with
  | nil => rfl
  | cons x rest ih =>
    rw [List.zipIdx_cons, List.zipIdx_cons, List.mapM_cons, List.mapM_cons]
    exact (careless x i j).bind fun first => (ih (i + 1) (j + 1)).bind fun later => rfl

end Outcome

namespace Checked

theorem result_bind (x : Checked α) (f : α → Checked β) :
    (x >>= f).result = x.result >>= fun a => (f a).result := by
  obtain ⟨warnings, result⟩ := x
  cases result <;> rfl

theorem bind_ok {x : Checked α} {f : α → Checked β} {b : β} (ran : (x >>= f).result = .ok b) :
    ∃ a, x.result = .ok a ∧ (f a).result = .ok b := by
  obtain ⟨warnings, result⟩ := x
  cases result with
  | error e => cases ran
  | ok a => exact ⟨a, rfl, ran⟩

theorem bind_of_ok {x : Checked α} {f : α → Checked β} {a : α} {b : β} (first : x.result = .ok a)
    (later : (f a).result = .ok b) : (x >>= f).result = .ok b := by
  obtain ⟨warnings, result⟩ := x
  cases first
  exact later

theorem bind_agree {x y : Checked α} {f g : α → Checked β} (first : Outcome.Agree x.result y.result)
    (rest : ∀ a, Outcome.Agree (f a).result (g a).result) :
    Outcome.Agree (x >>= f).result (y >>= g).result := by
  obtain ⟨ws, x⟩ := x
  obtain ⟨vs, y⟩ := y
  cases x <;> cases y <;> cases first
  · rfl
  · exact rest _

theorem forEach_ok {f : α → Checked β} {xs : List α} {ys : List β} (ran : (forEach f xs).result = .ok ys) :
    List.Forall₂ (fun x y => (f x).result = .ok y) xs ys := by
  induction xs generalizing ys with
  | nil =>
    cases ran
    exact .nil
  | cons x rest ih =>
    obtain ⟨y, first, ran⟩ := bind_ok ran
    obtain ⟨more, later, ran⟩ := bind_ok ran
    cases ran
    exact .cons first (ih later)

theorem answers_bind {x : Checked α} {f : α → Checked β} (first : Outcome.Answers x.result)
    (rest : ∀ a, Outcome.Answers (f a).result) : Outcome.Answers (x >>= f).result := by
  rw [result_bind]
  exact first.bind rest

theorem sameCrash_bind {x : Checked α} {f : α → Checked β} {y : Except (Stop ConfigError) Unit}
    (rest : ∀ a, Outcome.SameCrash (f a).result y) :
    Outcome.SameCrash (x >>= f).result (Outcome.done x.result >>= fun _ => y) := by
  rw [result_bind]
  exact .bind rest

theorem done_bind {x : Checked α} {f : α → Checked β} {y : Except (Stop ConfigError) Unit}
    (rest : ∀ a, Outcome.done (f a).result = y) :
    Outcome.done (x >>= f).result = Outcome.done x.result >>= fun _ => y := by
  rw [result_bind]
  exact Outcome.done_bind rest

theorem done_forEach (f : α → Checked β) (xs : List α) :
    Outcome.done (forEach f xs).result = forM xs fun x => Outcome.done (f x).result := by
  induction xs with
  | nil => rfl
  | cons x rest ih =>
    rw [List.forM_cons, ← ih]
    refine done_bind fun b => ?_
    change Outcome.done (forEach f rest >>= fun bs => pure (b :: bs)).result = _
    rw [result_bind]
    exact Outcome.done_bind_pure _ _

theorem forEach_append_ok {f : α → Checked β} {xs ys : List α} {as bs : List β}
    (first : (forEach f xs).result = .ok as) (later : (forEach f ys).result = .ok bs) :
    (forEach f (xs ++ ys)).result = .ok (as ++ bs) := by
  induction xs generalizing as with
  | nil =>
    cases first
    exact later
  | cons x rest ih =>
    obtain ⟨y, atHead, first⟩ := bind_ok first
    obtain ⟨more, atRest, first⟩ := bind_ok first
    cases first
    exact bind_of_ok atHead (bind_of_ok (ih atRest) rfl)

theorem forEach_zipIdx_agree {f : α × Nat → Checked β}
    (careless : ∀ a i j, Outcome.Agree (f (a, i)).result (f (a, j)).result) (xs : List α) (i j : Nat) :
    Outcome.Agree (forEach f (xs.zipIdx i)).result (forEach f (xs.zipIdx j)).result := by
  induction xs generalizing i j with
  | nil => rfl
  | cons x rest ih =>
    exact bind_agree (careless x i j) fun first => bind_agree (ih (i + 1) (j + 1)) fun later => rfl

/-- Where a reader succeeds, these are the warnings on its way. -/
def Warns (x : Checked α) (ws : List Warning) : Prop :=
  ∀ a, x.result = .ok a → x.warnings = ws

namespace Warns
variable {x : Checked α} {f : α → Checked β} {ws vs : List Warning}

theorem pure (a : α) : Warns (Pure.pure a : Checked α) [] :=
  fun _ _ => rfl

theorem fail (stop : Stop ConfigError) (f : α → Checked β) (ws : List Warning) :
    Warns (Checked.fail stop >>= f) ws :=
  fun _ ran => nomatch ran

theorem warn (ws : List Warning) : Warns (Checked.warn ws) ws :=
  fun _ _ => rfl

theorem bind (first : Warns x ws) (rest : ∀ a, x.result = .ok a → Warns (f a) vs) :
    Warns (x >>= f) (ws ++ vs) := by
  obtain ⟨warnings, result⟩ := x
  cases result with
  | error stop => nofun
  | ok a =>
    intro b ran
    exact congrArg₂ (· ++ ·) (first a rfl) (rest a rfl b ran)

/-- A step that gives no warnings. -/
theorem step {r : Except (Stop ConfigError) α} (rest : ∀ a, r = .ok a → Warns (f a) ws) :
    Warns ((r : Checked α) >>= f) ws :=
  bind (fun _ _ => rfl) rest

/-- The last step gives no warnings. -/
theorem andReturn {g : α → β} (first : Warns x ws) : Warns (x >>= fun a => Pure.pure (g a)) ws :=
  List.append_nil ws ▸ first.bind fun a _ => pure (g a)

theorem forEach {xs : List α} {g : α → List Warning} (each : ∀ a ∈ xs, Warns (f a) (g a)) :
    Warns (forEach f xs) (xs.flatMap g) := by
  induction xs with
  | nil => exact pure []
  | cons a rest ih =>
    obtain ⟨atHead, inRest⟩ := List.forall_mem_cons.mp each
    exact atHead.bind fun b _ => (ih inRest).andReturn

end Warns

end Checked

end ServiceKit
