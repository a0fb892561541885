import Mathlib.Data.List.Nodup

/-!
# Lists without repetitions

What is left of a list without its repetitions is distinct, and it stands in the order in which it
first occurs in the list (`pairwise_idxOf_eraseDups`). Each step takes the repetitions of one element
out of what follows it, so the induction is over lists that get shorter by a filter
(`eraseDups_induction`).
-/
namespace OpGraph.Repetition

variable {α : Type} [DecidableEq α]

theorem eraseDups_induction {motive : List α → Prop} (nil : motive [])
    (cons : ∀ first rest, motive (rest.filter fun other => !other == first) →
      motive (first :: rest)) (all : List α) : motive all := by
  induction length : all.length using Nat.strongRecOn generalizing all with
  | ind length ih =>
    subst length
    cases all with
    | nil => exact nil
    | cons first rest =>
      have shorter := List.length_filter_le (fun other => !other == first) rest
      exact cons first rest (ih _ (Nat.lt_succ_of_le shorter) _ rfl)

/-- What comes after an element differs from it. -/
theorem ne_of_mem_eraseDups_filter {first other : α} {rest : List α}
    (member : other ∈ (rest.filter fun other => !other == first).eraseDups) : first ≠ other := by
  rintro rfl
  simpa using List.mem_eraseDups.mp member

theorem nodup_eraseDups (all : List α) : all.eraseDups.Nodup := by
  induction all using eraseDups_induction with
  | nil => exact List.nodup_nil
  | cons first rest ih =>
    rw [List.eraseDups_cons]
    exact List.nodup_cons.mpr ⟨fun member => ne_of_mem_eraseDups_filter member rfl, ih⟩

/-- What stands first among the elements that are read stands first among all. -/
theorem idxOf_lt_of_filterMap {β : Type} [DecidableEq β] {read : α → Option β} {all : List α}
    {a b : α} {readA readB : β} (isA : ∀ other, read other = some readA ↔ other = a)
    (isB : ∀ other, read other = some readB ↔ other = b)
    (before : (all.filterMap read).idxOf readA < (all.filterMap read).idxOf readB) :
    all.idxOf a < all.idxOf b := by
  induction all with
  | nil => exact absurd before (Nat.lt_irrefl _)
  | cons first rest ih =>
    by_cases same : first = a
    · subst same
      have different : first ≠ b := by
        rintro rfl
        rw [Option.some.inj (((isA first).mpr rfl).symm.trans ((isB first).mpr rfl))] at before
        exact Nat.lt_irrefl _ before
      rw [List.idxOf_cons_self, List.idxOf_cons_ne _ different]
      exact Nat.succ_pos _
    · by_cases same' : first = b
      · rw [List.filterMap_cons_some ((isB first).mpr same'), List.idxOf_cons_self] at before
        exact absurd before (Nat.not_lt_zero _)
      · rw [List.idxOf_cons_ne _ same, List.idxOf_cons_ne _ same']
        refine Nat.succ_lt_succ (ih ?_)
        -- The element in front is neither of the two, whether it is read or not.
        cases read' : read first with
        | none => rwa [List.filterMap_cons_none read'] at before
        | some value =>
          have other : value ≠ readA := fun equal => same ((isA first).mp (equal ▸ read'))
          have other' : value ≠ readB := fun equal => same' ((isB first).mp (equal ▸ read'))
          rw [List.filterMap_cons_some read', List.idxOf_cons_ne _ other,
            List.idxOf_cons_ne _ other'] at before
          exact Nat.lt_of_succ_lt_succ before

/-- What stands first among the elements that are kept stands first among all. -/
theorem idxOf_lt_of_filter {keep : α → Bool} {all : List α} {a b : α} (kept : keep a = true)
    (kept' : keep b = true) (before : (all.filter keep).idxOf a < (all.filter keep).idxOf b) :
    all.idxOf a < all.idxOf b := by
  rw [← List.filterMap_eq_filter] at before
  have reads {element : α} (kept : keep element = true) (other : α) :
      Option.guard keep other = some element ↔ other = element := by
    rw [Option.guard_eq_some_iff]
    exact ⟨And.left, fun same => ⟨same, same ▸ kept⟩⟩
  exact idxOf_lt_of_filterMap (reads kept) (reads kept') before

theorem pairwise_idxOf_eraseDups (all : List α) :
    all.eraseDups.Pairwise fun a b => all.idxOf a < all.idxOf b := by
  induction all using eraseDups_induction with
  | nil => exact .nil
  | cons first rest ih =>
    rw [List.eraseDups_cons, List.pairwise_cons]
    refine ⟨fun other member => ?_, ih.imp_of_mem fun {a b} member member' before => ?_⟩
    · rw [List.idxOf_cons_self, List.idxOf_cons_ne _ (ne_of_mem_eraseDups_filter member)]
      exact Nat.succ_pos _
    · have different := ne_of_mem_eraseDups_filter member
      have different' := ne_of_mem_eraseDups_filter member'
      rw [List.idxOf_cons_ne _ different, List.idxOf_cons_ne _ different']
      have kept {other : α} (different : first ≠ other) : (!other == first) = true := by
        simpa using Ne.symm different
      exact Nat.succ_lt_succ (idxOf_lt_of_filter (kept different) (kept different') before)

end OpGraph.Repetition
