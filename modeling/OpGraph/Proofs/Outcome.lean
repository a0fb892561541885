import Mathlib.Data.List.Forall2
import OpGraph.Operator.Checking

/-!
# Outcomes of checked steps

A chain of steps succeeds exactly when each of them does on the results of those before it.
These lemmas take such a chain apart, in either direction. A chain fails only as one of its steps
does (`Fails`).
-/
namespace OpGraph.Outcome

variable {ε α β : Type}

@[simp] theorem pure_eq_ok (value result : α) :
    (pure value : Except ε α) = .ok result ↔ value = result := by
  simp [pure, Except.pure]

@[simp] theorem throw_eq_ok (failure : ε) (result : α) :
    (throw failure : Except ε α) = .ok result ↔ False := by
  simp [throw, throwThe, MonadExceptOf.throw]

@[simp] theorem bind_eq_ok (step : Except ε α) (next : α → Except ε β) (result : β) :
    (step >>= next) = .ok result ↔ ∃ value, step = .ok value ∧ next value = .ok result := by
  cases step <;> simp [bind, Except.bind]

/-- A check hands nothing on. -/
@[simp] theorem exists_unit (holds : Unit → Prop) : (∃ u, holds u) ↔ holds () :=
  ⟨fun ⟨(), held⟩ => held, fun held => ⟨(), held⟩⟩

@[simp] theorem ok_bind (value : α) (next : α → Except ε β) :
    ((Except.ok value : Except ε α) >>= next) = next value := by
  simp only [bind, Except.bind]

@[simp] theorem error_bind (failure : ε) (next : α → Except ε β) :
    ((Except.error failure : Except ε α) >>= next) = .error failure := by
  simp only [bind, Except.bind]

theorem toOption_eq_some {outcome : Except ε α} {result : α} :
    outcome.toOption = some result ↔ outcome = .ok result := by
  cases outcome <;> simp [Except.toOption]

/-- A traversal succeeds when every step does, and gives the results in order. -/
theorem mapM_eq_ok_iff (f : α → Except ε β) (xs : List α) (ys : List β) :
    xs.mapM f = .ok ys ↔ List.Forall₂ (fun x y => f x = .ok y) xs ys := by
  induction xs generalizing ys with
  | nil => cases ys <;> simp [List.mapM_nil]
  | cons x xs ih =>
    simp only [List.mapM_cons, bind_eq_ok, pure_eq_ok]
    cases ys with
    | nil => simp only [reduceCtorEq, and_false, exists_false, List.forall₂_nil_right_iff]
    | cons y ys =>
      simp only [List.cons.injEq, List.forall₂_cons, ← ih]
      constructor
      · rintro ⟨_, first, _, rest, rfl, rfl⟩
        exact ⟨first, rest⟩
      · rintro ⟨first, rest⟩
        exact ⟨y, first, ys, rest, rfl, rfl⟩

/-- A traversal in two stages succeeds when the second does on what the first one gives. -/
theorem mapM_bind_eq_ok {γ : Type} (f : α → Except ε β) (g : β → Except ε γ) (xs : List α)
    (zs : List γ) : (xs.mapM fun x => f x >>= g) = .ok zs ↔
      ∃ ys, List.Forall₂ (fun x y => f x = .ok y) xs ys ∧ ys.mapM g = .ok zs := by
  simp only [mapM_eq_ok_iff, bind_eq_ok]
  induction xs generalizing zs with
  | nil => simp [List.forall₂_nil_left_iff]
  | cons x xs ih =>
    simp only [List.forall₂_cons_left_iff, ih]
    constructor
    · rintro ⟨z, zs, ⟨y, read, written⟩, ⟨ys, reads, writes⟩, rfl⟩
      exact ⟨y :: ys, ⟨y, ys, read, reads, rfl⟩, .cons written writes⟩
    · rintro ⟨_, ⟨y, ys, read, reads, rfl⟩, all⟩
      cases all with
      | cons written writes => exact ⟨_, _, ⟨y, read, written⟩, ⟨ys, reads, writes⟩, rfl⟩

/-- A traversal fails as the first step that does. -/
theorem mapM_eq_error_iff (f : α → Except ε β) (xs : List α) (failure : ε) :
    xs.mapM f = .error failure ↔
      ∃ before x after, xs = before ++ x :: after ∧ (∀ y ∈ before, ∃ value, f y = .ok value) ∧
        f x = .error failure := by
  induction xs with
  | nil =>
    refine iff_of_false nofun ?_
    rintro ⟨before, x, after, same, -⟩
    simp at same
  | cons x xs ih =>
    rw [List.mapM_cons]
    cases first : f x with
    | error failure' =>
      rw [error_bind]
      constructor
      · intro same
        cases same
        exact ⟨[], x, xs, rfl, nofun, first⟩
      · rintro ⟨before, x', after, same, passed, failed⟩
        obtain _ | ⟨y, before⟩ := before
        · cases same
          cases first.symm.trans failed
          rfl
        · -- Nothing that fails stands before the failing item.
          cases same
          obtain ⟨value, passes⟩ := passed x List.mem_cons_self
          rw [first] at passes
          cases passes
    | ok value =>
      have rest : (do
          let values ← xs.mapM f
          return value :: values) = .error failure ↔ xs.mapM f = .error failure := by
        cases xs.mapM f <;> simp [pure, Except.pure]
      rw [ok_bind, rest, ih]
      constructor
      · rintro ⟨before, x', after, rfl, passed, failed⟩
        exact ⟨x :: before, x', after, rfl, List.forall_mem_cons.mpr ⟨⟨value, first⟩, passed⟩, failed⟩
      · rintro ⟨before, x', after, same, passed, failed⟩
        obtain _ | ⟨y, before⟩ := before
        · cases same
          rw [first] at failed
          cases failed
        · cases same
          exact ⟨before, x', after, rfl, (List.forall_mem_cons.mp passed).2, failed⟩

theorem mapM_eq_some_iff (f : α → Option β) (xs : List α) (ys : List β) :
    xs.mapM f = some ys ↔ List.Forall₂ (fun x y => f x = some y) xs ys := by
  induction xs generalizing ys with
  | nil => cases ys <;> simp [List.mapM_nil]
  | cons x xs ih =>
    simp only [List.mapM_cons, Option.bind_eq_bind, Option.bind_eq_some_iff, Option.pure_def,
      Option.some.injEq]
    cases ys with
    | nil => simp only [reduceCtorEq, and_false, exists_false, List.forall₂_nil_right_iff]
    | cons y ys =>
      simp only [List.cons.injEq, List.forall₂_cons, ← ih]
      constructor
      · rintro ⟨_, first, _, rest, rfl, rfl⟩
        exact ⟨first, rest⟩
      · rintro ⟨first, rest⟩
        exact ⟨y, first, ys, rest, rfl, rfl⟩

theorem forall₂_map_of_forall (related : α → β → Prop) (xs : List α) (f : α → β)
    (each : ∀ x ∈ xs, related x (f x)) : List.Forall₂ related xs (xs.map f) := by
  rw [List.forall₂_map_right_iff, List.forall₂_same]
  exact each

theorem forall₂_mem_left {related : α → β → Prop} {xs : List α} {ys : List β}
    (all : List.Forall₂ related xs ys) (x : α) (member : x ∈ xs) : ∃ y ∈ ys, related x y := by
  induction all with
  | nil => cases member
  | @cons first other _ _ head _ ih =>
    rcases List.mem_cons.mp member with rfl | later
    · exact ⟨other, by simp, head⟩
    · obtain ⟨y, among, holds⟩ := ih later
      exact ⟨y, by simp [among], holds⟩

/-- Items that each lead to a third one, related to both sides. -/
theorem forall₂_choose {γ : Type} {first : α → β → Prop} {second : α → γ → Prop}
    {third : β → γ → Prop} {xs : List α} {ys : List β} (all : List.Forall₂ first xs ys)
    (each : ∀ x ∈ xs, ∀ y, first x y → ∃ z, second x z ∧ third y z) :
    ∃ zs, List.Forall₂ second xs zs ∧ List.Forall₂ third ys zs := by
  induction all with
  | nil => exact ⟨[], .nil, .nil⟩
  | @cons x y xs ys head _ ih =>
    obtain ⟨z, here, there⟩ := each x (by simp) y head
    obtain ⟨zs, inner, outer⟩ := ih fun x member => each x (by simp [member])
    exact ⟨z :: zs, .cons here inner, .cons there outer⟩

theorem exists_forall₂ {first second : α → β → Prop} {xs : List α}
    (each : ∀ x ∈ xs, ∃ y, first x y ∧ second x y) :
    ∃ ys, List.Forall₂ first xs ys ∧ List.Forall₂ second xs ys := by
  refine forall₂_choose (List.forall₂_same.mpr fun x _ => rfl) ?_
  rintro x member _ rfl
  exact each x member

/-- A traversal whose steps all succeed is a map. -/
theorem mapM_eq_some_map (f : α → Option β) (g : α → β) (xs : List α)
    (each : ∀ x ∈ xs, f x = some (g x)) : xs.mapM f = some (xs.map g) :=
  (mapM_eq_some_iff f xs _).mpr (forall₂_map_of_forall _ xs g each)

theorem mapM_eq_ok_map (f : α → Except ε β) (g : α → β) (xs : List α)
    (each : ∀ x ∈ xs, f x = .ok (g x)) : xs.mapM f = .ok (xs.map g) :=
  (mapM_eq_ok_iff f xs _).mpr (forall₂_map_of_forall _ xs g each)

/-- A fold that succeeds has succeeded at every item. -/
theorem foldlM_eq_ok {f : β → α → Except ε β} {xs : List α} {y z : β}
    (folded : xs.foldlM f y = .ok z) : ∀ x ∈ xs, ∃ before after, f before x = .ok after := by
  induction xs generalizing y with
  | nil => exact nofun
  | cons x xs ih =>
    obtain ⟨next, first, rest⟩ := (bind_eq_ok _ _ _).mp (List.foldlM_cons.symm.trans folded)
    intro x' member
    rcases List.mem_cons.mp member with rfl | later
    · exact ⟨y, next, first⟩
    · exact ih rest x' later

theorem forM_eq_ok_iff (f : α → Except ε Unit) (xs : List α) :
    xs.forM f = .ok () ↔ ∀ x ∈ xs, f x = .ok () := by
  induction xs with
  | nil => simp [List.forM_nil]
  | cons x xs ih =>
    rw [List.forM, bind_eq_ok, exists_unit, ih]
    simp

@[simp] theorem require_eq_ok (kind : String) (holds : Bool) (violation : Violation) (result : Unit) :
    require kind holds violation = .ok result ↔ violation.isShort = true ∧ holds = true := by
  cases short : violation.isShort with
  | false => simp [require_of_long short]
  | true => cases holds <;> simp [require_of_short short, Violation.report]

@[simp] theorem report_ne_ok (kind : String) (violation : Violation) (result : α) :
    (violation.report kind : Except Failure α) = .ok result ↔ False := by
  simp [Violation.report]

theorem requireElements_eq_ok (kind : String) (first second etype : ElementType)
    (violation : Violation) :
    requireElements kind first second violation = .ok etype ↔ first.merge second = some etype := by
  unfold requireElements
  cases first.merge second <;> simp

/-- A step that can fail in no other way. -/
def Fails (cause : ε → Prop) (step : Except ε α) : Prop :=
  ∀ failure, step = .error failure → cause failure

namespace Fails

variable {cause : ε → Prop}

theorem ok (value : α) : Fails cause (.ok value) :=
  nofun

theorem error {failure : ε} (known : cause failure) : Fails cause (.error failure : Except ε α) := by
  intro failure' same
  cases same
  exact known

/-- A chain of steps fails as its steps do after those before them. -/
theorem bind {step : Except ε α} {next : α → Except ε β} (first : Fails cause step)
    (later : ∀ value, step = .ok value → Fails cause (next value)) :
    Fails cause (step >>= next) := by
  cases ran : step with
  | error failure =>
    intro failure' refused
    cases refused
    exact first failure ran
  | ok value => exact later value ran

theorem mapM {f : α → Except ε β} {xs : List α} (each : ∀ x ∈ xs, Fails cause (f x)) :
    Fails cause (xs.mapM f) := by
  induction xs with
  | nil => exact ok []
  | cons x xs ih =>
    rw [List.mapM_cons]
    refine bind (each x List.mem_cons_self) fun y _ => ?_
    exact bind (ih fun x later => each x (List.mem_cons_of_mem _ later)) fun ys _ => ok (y :: ys)

theorem foldlM {f : β → α → Except ε β} {xs : List α} (each : ∀ y, ∀ x ∈ xs, Fails cause (f y x))
    (y : β) : Fails cause (xs.foldlM f y) := by
  induction xs generalizing y with
  | nil => exact ok y
  | cons x xs ih =>
    rw [List.foldlM_cons]
    refine bind (each y x List.mem_cons_self) fun z _ => ?_
    exact ih (fun y x later => each y x (List.mem_cons_of_mem _ later)) z

theorem mapError {rename : ε → ε} {step : Except ε α}
    (fails : Fails (fun failure => cause (rename failure)) step) :
    Fails cause (step.mapError rename) := by
  cases ran : step with
  | ok value => exact ok value
  | error failure => exact error (fails failure ran)

end Fails

end OpGraph.Outcome
