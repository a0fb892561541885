import Mathlib.Data.Set.Basic
import OpGraph.Proofs.Types.Refinement

/-!
# Shapes as sets

A shape stands for the lists of lengths that refine it. Its relations are those of these sets:
shapes are compatible when the sets meet, one refines another when its set is the smaller one, and
merging intersects. No two shapes have the same set, and shapes that cannot be merged stand for none,
so the laws of merging are those of intersection (`merge_intersects`).

Proof strategy: what is said of shapes is shown of dimensions first. Lengths refine dimensions
position by position, so it follows for shapes by induction over the dimensions. An inclusion of
sets is taken apart by completing one length, or the lengths behind it, to a whole list.
-/
namespace OpGraph

/-! ### Dimensions -/

namespace Dimension

variable {a b : Dimension}

theorem refines_iff : a.refines b = true ↔ b = .dynamic ∨ b = a := by
  rw [refines_eq_relaxes]
  exact relaxes_iff b a

theorem refines_trans {c : Dimension} (first : a.refines b = true) (second : b.refines c = true) :
    a.refines c = true := by
  rw [refines_eq_relaxes] at first second ⊢
  exact relaxes_trans second first

theorem refines_lengthOr (d : Dimension) (length : Nat) :
    (static (d.lengthOr length)).refines d = true := by
  rw [refines_eq_relaxes]
  exact d.relaxes_lengthOr length

theorem refines_antisymm (first : a.refines b = true) (second : b.refines a = true) : a = b := by
  rcases refines_iff.mp first with rfl | rfl
  · exact ((refines_iff.mp second).elim id id)
  · rfl

theorem exists_refines (d : Dimension) : ∃ length, (static length).refines d = true :=
  ⟨_, d.refines_lengthOr 0⟩

/-- A dimension that allows all lengths of another one is at least as general. -/
theorem refines_of_forall
    (all : ∀ length, (static length).refines a = true → (static length).refines b = true) :
    a.refines b = true := by
  cases a with
  | static length => exact all length (refines_iff.mpr (.inr rfl))
  | dynamic =>
    cases b with
    | dynamic => rfl
    | static length =>
      -- A longer one is allowed on the left only.
      have longer := refines_iff.mp (all (length + 1) rfl)
      simp at longer

theorem refines_merge (a b : Dimension) (length : Nat) :
    (∃ merged, a.merge b = some merged ∧ (static length).refines merged = true) ↔
      (static length).refines a = true ∧ (static length).refines b = true := by
  cases a with
  | dynamic => simp [merge, refines]
  | static =>
    cases b with
    | dynamic => simp [merge, refines]
    | static =>
      simp only [merge, refines_iff, reduceCtorEq, false_or, static.injEq]
      split
      next same => simp [same]
      next different =>
        simp only [reduceCtorEq, false_and, exists_false, false_iff, not_and]
        rintro rfl rfl
        exact different rfl

theorem compatible_eq_isSome_merge (a b : Dimension) : a.compatible b = (a.merge b).isSome := by
  cases a with
  | dynamic => rfl
  | static =>
    cases b with
    | dynamic => rfl
    | static =>
      rw [compatible, merge]
      split <;> simp_all

end Dimension

namespace Shape

/-! ### Lists of dimensions -/

/-- Lengths refine dimensions, position by position. -/
def Allows : List Dimension → List Nat → Prop :=
  List.Forall₂ fun dim length => (Dimension.static length).refines dim = true

theorem exists_allows (dims : List Dimension) : ∃ lengths, Allows dims lengths :=
  ⟨_, Outcome.forall₂_map_of_forall _ dims (fun dim => dim.lengthOr 0) fun dim _ =>
    dim.refines_lengthOr 0⟩

theorem allows_of_refines {as bs : List Dimension} {lengths : List Nat}
    (each : List.Forall₂ (fun a b => Dimension.refines a b = true) as bs)
    (allowed : Allows as lengths) : Allows bs lengths := by
  induction each generalizing lengths with
  | nil => exact allowed
  | cons head _ ih =>
    cases allowed with
    | cons first rest => exact .cons (Dimension.refines_trans first head) (ih rest)

theorem refines_of_allows {as bs : List Dimension}
    (all : ∀ lengths, Allows as lengths → Allows bs lengths) :
    List.Forall₂ (fun a b => Dimension.refines a b = true) as bs := by
  induction as generalizing bs with
  | nil =>
    cases all [] .nil
    exact .nil
  | cons a as ih =>
    obtain ⟨length, first⟩ := a.exists_refines
    obtain ⟨lengths, rest⟩ := exists_allows as
    cases all (length :: lengths) (.cons first rest) with
    | @cons b _ bs =>
      refine .cons (Dimension.refines_of_forall fun other allowed => ?_) (ih fun others allowed => ?_)
      · exact (List.forall₂_cons.mp (all (other :: lengths) (.cons allowed rest))).1
      · exact (List.forall₂_cons.mp (all (length :: others) (.cons first allowed))).2

theorem mergeDims_cons {a b : Dimension} {as bs merged : List Dimension} :
    mergeDims (a :: as) (b :: bs) = some merged ↔
      ∃ dim dims, a.merge b = some dim ∧ mergeDims as bs = some dims ∧ merged = dim :: dims := by
  rw [mergeDims]
  cases a.merge b <;> cases mergeDims as bs <;> simp [eq_comm]

theorem allows_mergeDims (as bs : List Dimension) (lengths : List Nat) :
    (∃ merged, mergeDims as bs = some merged ∧ Allows merged lengths) ↔
      Allows as lengths ∧ Allows bs lengths := by
  -- Along the three lists at once; where their lengths differ neither side holds.
  induction as generalizing bs lengths with
  | nil =>
    cases bs with
    | nil => simp [mergeDims]
    | cons b bs => cases lengths <;> simp [mergeDims, Allows]
  | cons a as ih =>
    cases bs with
    | nil => cases lengths <;> simp [mergeDims, Allows]
    | cons b bs =>
      cases lengths with
      | nil => simp [mergeDims_cons, Allows]
      | cons length lengths =>
        have here := Dimension.refines_merge a b length
        have rest := ih bs lengths
        simp only [Allows] at rest
        simp only [Allows, List.forall₂_cons, mergeDims_cons]
        constructor
        · rintro ⟨_, ⟨dim, dims, merges, merges', rfl⟩, allowed⟩
          obtain ⟨first, later⟩ := List.forall₂_cons.mp allowed
          obtain ⟨left, right⟩ := here.mp ⟨dim, merges, first⟩
          obtain ⟨left', right'⟩ := rest.mp ⟨dims, merges', later⟩
          exact ⟨⟨left, left'⟩, right, right'⟩
        · rintro ⟨⟨left, left'⟩, right, right'⟩
          obtain ⟨dim, merges, first⟩ := here.mpr ⟨left, right⟩
          obtain ⟨dims, merges', later⟩ := rest.mpr ⟨left', right'⟩
          exact ⟨_, ⟨dim, dims, merges, merges', rfl⟩, .cons first later⟩

theorem pairwise_compatible (as bs : List Dimension) :
    pairwise Dimension.compatible as bs = (mergeDims as bs).isSome := by
  induction as generalizing bs with
  | nil => cases bs <;> rfl
  | cons a as ih =>
    cases bs with
    | nil => rfl
    | cons b bs =>
      rw [pairwise, ih, Dimension.compatible_eq_isSome_merge, mergeDims]
      cases a.merge b <;> cases mergeDims as bs <;> rfl

/-! ### Sets of shapes -/

/-- The lists of lengths that refine a shape. -/
def statics (shape : Shape) : Set (List Nat) :=
  {lengths | (ofLengths lengths).refines shape = true}

/-- No shape stands for no list. -/
def staticsOf : Option Shape → Set (List Nat)
  | some shape => shape.statics
  | none => ∅

theorem statics_dynamicRank : dynamicRank.statics = Set.univ :=
  Set.eq_univ_of_forall fun _ => rfl

theorem mem_statics_ranked {dims : List Dimension} {lengths : List Nat} :
    lengths ∈ (ranked dims).statics ↔ Allows dims lengths := by
  change pairwise Dimension.refines (lengths.map .static) dims = true ↔ _
  rw [pairwise_iff, List.forall₂_map_left_iff]
  exact ⟨List.Forall₂.flip, List.Forall₂.flip⟩

theorem statics_nonempty (shape : Shape) : shape.statics.Nonempty := by
  cases shape with
  | dynamicRank => exact ⟨[], rfl⟩
  | ranked dims =>
    obtain ⟨lengths, allowed⟩ := exists_allows dims
    exact ⟨lengths, mem_statics_ranked.mpr allowed⟩

/-- Shapes of known ranks refine each other position by position. -/
theorem refines_ranked {as bs : List Dimension} :
    (ranked as).refines (ranked bs) = true ↔
      List.Forall₂ (fun a b => Dimension.refines a b = true) as bs := by
  exact pairwise_iff Dimension.refines as bs

theorem refines_iff_subset {a b : Shape} : a.refines b = true ↔ a.statics ⊆ b.statics := by
  cases b with
  | dynamicRank =>
    rw [statics_dynamicRank]
    exact iff_of_true rfl (Set.subset_univ _)
  | ranked bs =>
    cases a with
    | dynamicRank =>
      -- Lengths of another rank are allowed on the left only.
      refine iff_of_false nofun fun included => ?_
      have longer : List.replicate (bs.length + 1) 0 ∈ dynamicRank.statics := rfl
      simpa using (mem_statics_ranked.mp (included longer)).length_eq
    | ranked as =>
      rw [refines_ranked]
      constructor
      · intro each lengths allowed
        exact mem_statics_ranked.mpr (allows_of_refines each (mem_statics_ranked.mp allowed))
      · intro included
        refine refines_of_allows fun lengths allowed => ?_
        exact mem_statics_ranked.mp (included (mem_statics_ranked.mpr allowed))

theorem refines_antisymm {a b : Shape} (first : a.refines b = true) (second : b.refines a = true) :
    a = b := by
  cases a with
  | dynamicRank =>
    cases b with
    | dynamicRank => rfl
    | ranked bs => cases first
  | ranked as =>
    cases b with
    | dynamicRank => cases second
    | ranked bs =>
      have each := refines_ranked.mp first
      have each' := refines_ranked.mp second
      refine congrArg ranked ?_
      clear first second
      induction each with
      | nil => rfl
      | cons head _ ih =>
        obtain ⟨head', rest'⟩ := List.forall₂_cons.mp each'
        rw [Dimension.refines_antisymm head head', ih rest']

theorem statics_injective {a b : Shape} : a = b ↔ a.statics = b.statics := by
  refine ⟨congrArg statics, fun same => refines_antisymm ?_ ?_⟩
  · exact refines_iff_subset.mpr same.subset
  · exact refines_iff_subset.mpr same.superset

theorem staticsOf_injective {a b : Option Shape} (same : staticsOf a = staticsOf b) : a = b := by
  cases a with
  | none =>
    cases b with
    | none => rfl
    | some b => exact absurd same.symm b.statics_nonempty.ne_empty
  | some a =>
    cases b with
    | none => exact absurd same a.statics_nonempty.ne_empty
    | some b => rw [statics_injective.mpr same]

/-! ### Merging -/

theorem staticsOf_merge (a b : Shape) : staticsOf (a.merge b) = a.statics ∩ b.statics := by
  cases a with
  | dynamicRank =>
    rw [statics_dynamicRank, Set.univ_inter]
    rfl
  | ranked as =>
    cases b with
    | dynamicRank =>
      rw [statics_dynamicRank, Set.inter_univ]
      rfl
    | ranked bs =>
      ext lengths
      rw [Set.mem_inter_iff, mem_statics_ranked, mem_statics_ranked, ← allows_mergeDims, merge]
      cases mergeDims as bs with
      | none => simp [staticsOf]
      | some dims => simp [staticsOf, mem_statics_ranked]

theorem compatible_eq_isSome_merge (a b : Shape) : a.compatible b = (a.merge b).isSome := by
  cases a with
  | dynamicRank => rfl
  | ranked as =>
    cases b with
    | dynamicRank => rfl
    | ranked bs => rw [compatible, pairwise_compatible, merge, Option.isSome_map]

theorem staticsOf_merge_right (a? : Option Shape) (b : Shape) :
    staticsOf (a?.bind fun a => a.merge b) = staticsOf a? ∩ b.statics := by
  cases a? with
  | none => exact (Set.empty_inter _).symm
  | some a => exact staticsOf_merge a b

theorem staticsOf_merge_left (a : Shape) (b? : Option Shape) :
    staticsOf (b?.bind fun b => a.merge b) = a.statics ∩ staticsOf b? := by
  cases b? with
  | none => exact (Set.inter_empty _).symm
  | some b => exact staticsOf_merge a b

/-- What shapes stand for tells all that is asked of them: whether they are compatible, whether one
refines the other or equals it, and what they merge to. -/
theorem merge_intersects (a b : Shape) :
    (a.compatible b = true ↔ (a.statics ∩ b.statics).Nonempty) ∧
      (a.merge b = none ↔ a.statics ∩ b.statics = ∅) ∧
      (∀ merged, a.merge b = some merged →
        merged.statics = a.statics ∩ b.statics ∧
          merged.refines a = true ∧ merged.refines b = true ∧
          ∀ c : Shape, c.refines a = true → c.refines b = true → c.refines merged = true) ∧
      (a.refines b = true ↔ a.statics ⊆ b.statics) ∧
      (b.relaxes a = true ↔ a.statics ⊆ b.statics) ∧
      (a.sameScheme b = true ↔ a.statics = b.statics) ∧
      ((a == b) = true ↔ a.statics = b.statics) ∧
      a.merge b = b.merge a ∧
      (∀ c : Shape, ((a.merge b).bind fun merged => merged.merge c) =
        (b.merge c).bind fun merged => a.merge merged) ∧
      a.merge a = some a ∧ dynamicRank.merge a = some a ∧ a.merge dynamicRank = some a := by
  have intersection := staticsOf_merge a b
  have none_iff : a.merge b = none ↔ a.statics ∩ b.statics = ∅ := by
    rw [← intersection]
    exact ⟨fun none => by rw [none, staticsOf], fun empty => staticsOf_injective empty⟩
  have relaxes_iff : b.relaxes a = true ↔ a.statics ⊆ b.statics := by
    rw [← refines_eq_relaxes]
    exact refines_iff_subset
  refine ⟨?_, none_iff, fun merged merges => ?_, refines_iff_subset, relaxes_iff, ?_, ?_, ?_, ?_,
    ?_, rfl, ?_⟩
  · rw [compatible_eq_isSome_merge, Option.isSome_iff_ne_none, Ne, none_iff,
      Set.nonempty_iff_ne_empty]
  · rw [merges] at intersection
    simp only [refines_iff_subset]
    change merged.statics = _ at intersection
    rw [intersection]
    exact ⟨rfl, Set.inter_subset_left, Set.inter_subset_right, fun _ => Set.subset_inter⟩
  · rw [sameScheme_iff, statics_injective]
  · rw [beq_iff_eq, statics_injective]
  · exact staticsOf_injective (by rw [staticsOf_merge, staticsOf_merge, Set.inter_comm])
  · intro c
    refine staticsOf_injective ?_
    rw [staticsOf_merge_right, staticsOf_merge_left, staticsOf_merge, staticsOf_merge,
      Set.inter_assoc]
  · exact staticsOf_injective (by rw [staticsOf_merge, Set.inter_self, staticsOf])
  · cases a <;> rfl

/-- Each of the shapes knows the dimension that the other one does not. -/
theorem merge_intersects_crosswise :
    let a : Shape := .ranked [.dynamic, .static 3]
    let b : Shape := .ranked [.static 2, .dynamic]
    a.merge b = some (ofLengths [2, 3]) ∧ (ofLengths [2, 3]).statics = a.statics ∩ b.statics :=
  ⟨rfl, ((merge_intersects _ _).2.2.1 _ rfl).1⟩

end Shape

end OpGraph
