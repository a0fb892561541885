import OpGraph.Proofs.Types.Intersection

/-!
# Merging many shapes

Shapes are merged two at a time, one after another or bracketed in another way. Whatever the order,
what is left stands for the lists of lengths that all of the shapes stand for, so the order does not
matter. There are such lists as soon as any two of the shapes have one in common, since a merged
shape agrees with what both of its parts agree with (`merge_compatible`). Main statement:
`merge_any_order`.
-/
namespace OpGraph

theorem Dimension.merge_compatible {a b merged c : Dimension} (merges : a.merge b = some merged)
    (left : a.compatible c = true) (right : b.compatible c = true) :
    merged.compatible c = true := by
  -- The merged dimension is one of the two.
  unfold merge at merges
  split at merges
  · cases merges
    exact right
  · cases merges
    exact left
  · split at merges
    · cases merges
      exact left
    · cases merges

namespace Shape

theorem mergeDims_compatible {as bs merged cs : List Dimension}
    (merges : mergeDims as bs = some merged) (left : pairwise Dimension.compatible as cs = true)
    (right : pairwise Dimension.compatible bs cs = true) :
    pairwise Dimension.compatible merged cs = true := by
  induction as generalizing bs merged cs with
  | nil =>
    cases bs with
    | nil =>
      cases merges
      exact left
    | cons b bs => cases merges
  | cons a as ih =>
    cases bs with
    | nil => cases merges
    | cons b bs =>
      obtain ⟨dim, dims, here, there, rfl⟩ := mergeDims_cons.mp merges
      cases cs with
      | nil => cases left
      | cons c cs =>
        simp only [pairwise, Bool.and_eq_true] at left right ⊢
        exact ⟨Dimension.merge_compatible here left.1 right.1, ih there left.2 right.2⟩

/-- What agrees with two shapes agrees with what they merge to. -/
theorem merge_compatible {a b merged c : Shape} (merges : a.merge b = some merged)
    (left : a.compatible c = true) (right : b.compatible c = true) :
    merged.compatible c = true := by
  cases a with
  | dynamicRank =>
    cases merges
    exact right
  | ranked as =>
    cases b with
    | dynamicRank =>
      cases merges
      exact left
    | ranked bs =>
      obtain ⟨dims, inner, rfl⟩ := Option.map_eq_some_iff.mp merges
      cases c with
      | dynamicRank => rfl
      | ranked cs => exact mergeDims_compatible inner left right

/-! ### What shapes have in common -/

/-- The lists of lengths that all of the shapes stand for. -/
def common (shapes : List Shape) : Set (List Nat) :=
  {lengths | ∀ shape ∈ shapes, lengths ∈ shape.statics}

theorem common_cons (shape : Shape) (shapes : List Shape) :
    common (shape :: shapes) = shape.statics ∩ common shapes := by
  ext lengths
  exact List.forall_mem_cons

theorem common_append (shapes others : List Shape) :
    common (shapes ++ others) = common shapes ∩ common others := by
  ext lengths
  exact List.forall_mem_append

theorem common_perm {shapes others : List Shape} (perm : shapes.Perm others) :
    common shapes = common others := by
  ext lengths
  exact forall_congr' fun shape => imp_congr_left perm.mem_iff

/-- Two shapes in the place of which their merged shape stands. -/
theorem common_merged {a b merged : Shape} (merges : a.merge b = some merged)
    (shapes : List Shape) : common (merged :: shapes) = common (a :: b :: shapes) := by
  have intersection : merged.statics = a.statics ∩ b.statics := by
    rw [← staticsOf_merge, merges]
    rfl
  rw [common_cons, common_cons, common_cons, intersection, Set.inter_assoc]

theorem common_eq_empty {a b : Shape} (refused : a.merge b = none) (shapes : List Shape) :
    common (a :: b :: shapes) = ∅ := by
  have disjoint : a.statics ∩ b.statics = ∅ := by
    rw [← staticsOf_merge, refused]
    rfl
  rw [common_cons, common_cons, ← Set.inter_assoc, disjoint, Set.empty_inter]

theorem compatible_iff_common {a b : Shape} :
    a.compatible b = true ↔ (a.statics ∩ b.statics).Nonempty := by
  rw [compatible_eq_isSome_merge, ← staticsOf_merge]
  cases a.merge b with
  | none => simp [staticsOf]
  | some merged => simp [staticsOf, merged.statics_nonempty]

theorem nonempty_common {first : Shape} {rest : List Shape}
    (agree : (first :: rest).Pairwise fun a b => a.compatible b = true) :
    (common (first :: rest)).Nonempty := by
  induction rest generalizing first with
  | nil =>
    rw [common_cons]
    exact first.statics_nonempty.imp fun lengths among => ⟨among, nofun⟩
  | cons next rest ih =>
    obtain ⟨all, later⟩ := List.pairwise_cons.mp agree
    obtain ⟨all', later'⟩ := List.pairwise_cons.mp later
    -- What is compatible with the first two is compatible with what they merge to.
    have meets := all next List.mem_cons_self
    rw [compatible_eq_isSome_merge] at meets
    obtain ⟨merged, merges⟩ := Option.isSome_iff_exists.mp meets
    rw [← common_merged merges]
    refine ih (List.pairwise_cons.mpr ⟨fun shape among => ?_, later'⟩)
    exact merge_compatible merges (all shape (List.mem_cons_of_mem _ among)) (all' shape among)

/-- Any two shapes have a list of lengths in common just when all of them do. -/
theorem pairwise_compatible_iff (first : Shape) (rest : List Shape) :
    ((first :: rest).Pairwise fun a b => a.compatible b = true) ↔
      (common (first :: rest)).Nonempty := by
  refine ⟨nonempty_common, fun ⟨lengths, among⟩ => ?_⟩
  exact List.pairwise_of_forall_mem_list fun a left b right =>
    compatible_iff_common.mpr ⟨lengths, among a left, among b right⟩

/-! ### Merging one after another -/

theorem mergeRun_succeeds_iff (first : Shape) (rest : List Shape) :
    (∀ step ∈ first.mergeRun rest, step.isSome = true) ↔ (common (first :: rest)).Nonempty := by
  induction rest generalizing first with
  | nil =>
    refine iff_of_true nofun ?_
    exact nonempty_common (List.pairwise_singleton _ first)
  | cons next rest ih =>
    rw [mergeRun]
    cases merges : first.merge next with
    | none => simp [common_eq_empty merges]
    | some merged => simp [← common_merged merges, ih]

/-- The last shape of a run without failures. -/
theorem getLastD_mergeRun (first : Shape) (rest : List Shape)
    (succeeds : ∀ step ∈ first.mergeRun rest, step.isSome = true) :
    staticsOf ((first.mergeRun rest).getLastD (some first)) = common (first :: rest) := by
  induction rest generalizing first with
  | nil => simp [mergeRun, staticsOf, common]
  | cons next rest ih =>
    rw [mergeRun] at succeeds ⊢
    cases merges : first.merge next with
    | none => simp [merges] at succeeds
    | some merged =>
      simp only [merges, List.forall_mem_cons] at succeeds
      simp only [List.getLastD_cons]
      rw [ih merged succeeds.2, common_merged merges]

/-- Shapes with lists of lengths in common are merged to what stands for just these. -/
theorem exists_statics_eq_common {first : Shape} {rest : List Shape}
    (meet : (common (first :: rest)).Nonempty) :
    ∃ merged : Shape, merged.statics = common (first :: rest) := by
  have ends := getLastD_mergeRun first rest ((mergeRun_succeeds_iff first rest).mpr meet)
  cases ended : (first.mergeRun rest).getLastD (some first) with
  | none =>
    rw [ended] at ends
    exact absurd ends.symm meet.ne_empty
  | some merged =>
    rw [ended] at ends
    exact ⟨merged, ends⟩

/-! ### Merging in brackets -/

/-- An order in which shapes are merged two at a time. -/
inductive Bracketing where
  | single (shape : Shape)
  | merge (left right : Bracketing)

namespace Bracketing

/-- The shapes from left to right. -/
def shapes : Bracketing → List Shape
  | single shape => [shape]
  | merge left right => left.shapes ++ right.shapes

/-- The shape that is left, unless two cannot be merged. -/
def result? : Bracketing → Option Shape
  | single shape => some shape
  | merge left right => left.result?.bind fun a => right.result?.bind fun b => a.merge b

theorem staticsOf_result? (bracketing : Bracketing) :
    staticsOf bracketing.result? = common bracketing.shapes := by
  induction bracketing with
  | single shape => simp [result?, shapes, staticsOf, common]
  | merge left right ih ih' =>
    rw [shapes, common_append, ← ih, ← ih', result?]
    cases left.result? with
    | none => exact (Set.empty_inter _).symm
    | some a => exact staticsOf_merge_left a right.result?

end Bracketing

/-- A row of shapes is merged without failure just when any two of its shapes are compatible. Then
every order and every bracketing gives the same shape, which refines them all; otherwise every order
and every bracketing fails. Compatibility is not transitive. -/
theorem merge_any_order (first : Shape) (rest : List Shape) :
    let shapes := first :: rest
    let agree := shapes.Pairwise fun a b => a.compatible b = true
    ((∀ step ∈ first.mergeRun rest, step.isSome = true) ↔ agree) ∧
      (agree → ∃ merged : Shape,
        (∀ first' rest', (first' :: rest').Perm shapes →
          (∀ step ∈ first'.mergeRun rest', step.isSome = true) ∧
            (first'.mergeRun rest').getLastD (some first') = some merged) ∧
        (∀ bracketing : Bracketing, bracketing.shapes.Perm shapes →
          bracketing.result? = some merged) ∧
        ∀ shape ∈ shapes, merged.refines shape = true) ∧
      (¬agree →
        (∀ first' rest', (first' :: rest').Perm shapes → none ∈ first'.mergeRun rest') ∧
        ∀ bracketing : Bracketing, bracketing.shapes.Perm shapes → bracketing.result? = none) ∧
      ∃ a b c : Shape, a.compatible b = true ∧ b.compatible c = true ∧ a.compatible c = false := by
  intro shapes agree
  -- A shape is given by the lists of lengths it stands for, and what shapes have in common does
  -- not depend on their order.
  have agree_iff : agree ↔ (common shapes).Nonempty := pairwise_compatible_iff first rest
  refine ⟨(mergeRun_succeeds_iff first rest).trans agree_iff.symm, fun holds => ?_, fun fails => ?_,
    .ofLengths [1], .ranked [.dynamic], .ofLengths [2], rfl, rfl, rfl⟩
  · have meet : (common shapes).Nonempty := agree_iff.mp holds
    obtain ⟨merged, statics⟩ := exists_statics_eq_common meet
    refine ⟨merged, fun first' rest' perm => ?_, fun bracketing perm => ?_, fun shape among => ?_⟩
    · have same : common (first' :: rest') = common shapes := common_perm perm
      have succeeds := (mergeRun_succeeds_iff first' rest').mpr (same ▸ meet)
      refine ⟨succeeds, staticsOf_injective ?_⟩
      rw [getLastD_mergeRun first' rest' succeeds, same]
      exact statics.symm
    · refine staticsOf_injective ?_
      rw [bracketing.staticsOf_result?, common_perm perm]
      exact statics.symm
    · rw [refines_iff_subset, statics]
      exact fun lengths all => all shape among
  · have empty : common shapes = ∅ := Set.not_nonempty_iff_eq_empty.mp (mt agree_iff.mpr fails)
    refine ⟨fun first' rest' perm => ?_, fun bracketing perm => staticsOf_injective ?_⟩
    · have stops : ¬∀ step ∈ first'.mergeRun rest', step.isSome = true := by
        rw [mergeRun_succeeds_iff, common_perm perm, empty]
        exact Set.not_nonempty_empty
      simpa using stops
    · rw [bracketing.staticsOf_result?, common_perm perm]
      exact empty

/-- Three shapes none of which is known in full, and the two outer ones in different places. -/
theorem merge_any_order_mixed :
    let a : Shape := .ranked [.dynamic, .static 3]
    let b : Shape := .dynamicRank
    let c : Shape := .ranked [.static 2, .dynamic]
    (∀ step ∈ a.mergeRun [b, c], step.isSome = true) ∧
      (Bracketing.merge (.single c) (.merge (.single a) (.single b))).result? =
        some (.ofLengths [2, 3]) := by
  intro a b c
  obtain ⟨succeeds, same, -, -⟩ := merge_any_order a [b, c]
  have agree : [a, b, c].Pairwise fun a b => a.compatible b = true := by decide
  obtain ⟨merged, runs, brackets, -⟩ := same agree
  have ends : some (Shape.ofLengths [2, 3]) = some merged := (runs a [b, c] (.refl _)).2
  rw [ends]
  exact ⟨succeeds.mpr agree, brackets _ (by decide)⟩

end Shape

end OpGraph
