import OpGraph.Proofs.Shape

/-!
# Refinement of types

One type refines another when it differs from it only where the other leaves something
unknown. What is done with types on the way through an operator respects refinement: ranks,
merges and tests of compatibility that succeed on specific types succeed on more general ones,
with a result that is at most as specific.
-/
namespace OpGraph

namespace Dimension

theorem relaxes_iff (a b : Dimension) : a.relaxes b = true ↔ a = .dynamic ∨ a = b := by
  cases a <;> cases b <;> simp [relaxes]

theorem relaxes_refl (a : Dimension) : a.relaxes a = true :=
  (relaxes_iff a a).mpr (Or.inr rfl)

theorem relaxes_trans {a b c : Dimension} (first : a.relaxes b = true)
    (second : b.relaxes c = true) : a.relaxes c = true := by
  rcases (relaxes_iff a b).mp first with rfl | rfl
  · rfl
  · exact second

theorem relaxes_lengthOr (d : Dimension) (unknown : Nat) :
    d.relaxes (.static (d.lengthOr unknown)) = true := by
  cases d <;> simp [relaxes]

theorem isShort_of_relaxes {a a' : Dimension} (general : a.relaxes a' = true)
    (short : a'.isShort = true) : a.isShort = true := by
  rcases (relaxes_iff a a').mp general with rfl | rfl
  · rfl
  · exact short

theorem compatible_of_relaxes {a a' : Dimension} (b : Dimension) (general : a.relaxes a' = true)
    (agree : a'.compatible b = true) : a.compatible b = true := by
  rcases (relaxes_iff a a').mp general with rfl | rfl
  · rfl
  · exact agree

/-- What is merged is at least as general as the result. -/
theorem relaxes_of_merge {a b m : Dimension} (merged : a.merge b = some m) :
    a.relaxes m = true ∧ b.relaxes m = true := by
  simp only [relaxes_iff]
  unfold merge at merged
  split at merged
  · exact ⟨Or.inl rfl, Or.inr (Option.some.inj merged)⟩
  · exact ⟨Or.inr (Option.some.inj merged), Or.inl rfl⟩
  · split at merged
    next same =>
      subst same
      exact ⟨Or.inr (Option.some.inj merged), Or.inr (Option.some.inj merged)⟩
    · cases merged

theorem merge_relaxes {a a' b b' m' : Dimension} (general : a.relaxes a' = true)
    (general' : b.relaxes b' = true) (merged : a'.merge b' = some m') :
    ∃ m, a.merge b = some m ∧ m.relaxes m' = true := by
  have merge_dynamic (d : Dimension) : d.merge .dynamic = some d := by cases d <;> rfl
  obtain ⟨left, right⟩ := relaxes_of_merge merged
  rcases (relaxes_iff a a').mp general with rfl | rfl
  · rcases (relaxes_iff b b').mp general' with rfl | rfl
    · exact ⟨.dynamic, rfl, rfl⟩
    · exact ⟨b, rfl, right⟩
  · rcases (relaxes_iff b b').mp general' with rfl | rfl
    · exact ⟨a, merge_dynamic a, left⟩
    · exact ⟨m', merged, relaxes_refl m'⟩

theorem isShort_one : (static 1).isShort = true := by
  decide

theorem isShort_lengthOr {d : Dimension} {unknown : Nat} (short : d.isShort = true)
    (short' : (static unknown).isShort = true) : (static (d.lengthOr unknown)).isShort = true := by
  cases d with
  | dynamic => exact short'
  | static length => exact short

theorem isShort_of_merge {a b m : Dimension} (merged : a.merge b = some m)
    (short : a.isShort = true) (short' : b.isShort = true) : m.isShort = true := by
  cases a with
  | dynamic =>
    cases merged
    exact short'
  | static n =>
    cases b with
    | dynamic =>
      cases merged
      exact short
    | static k =>
      simp only [merge] at merged
      split at merged <;> cases merged
      exact short

/-- Dimensions that agree may have one length, which can be written if they can. -/
theorem exists_common {a b : Dimension} (agree : (a.merge b).isSome = true)
    (short : a.isShort = true) (short' : b.isShort = true) :
    ∃ length, a.relaxes (.static length) = true ∧ b.relaxes (.static length) = true ∧
      (static length).isShort = true := by
  obtain ⟨merged, merges⟩ := Option.isSome_iff_exists.mp agree
  obtain ⟨left, right⟩ := relaxes_of_merge merges
  have known := merged.relaxes_lengthOr 1
  exact ⟨merged.lengthOr 1, relaxes_trans left known, relaxes_trans right known,
    isShort_lengthOr (isShort_of_merge merges short short') isShort_one⟩

end Dimension

namespace ElementType

/-- The first type is at least as general as the second. -/
def Relaxes (a b : ElementType) : Prop :=
  a = .dynamic ∨ a = b

theorem Relaxes.refl (a : ElementType) : a.Relaxes a :=
  Or.inr rfl

theorem relaxes_of_merge {a b m : ElementType} (merged : a.merge b = some m) :
    a.Relaxes m ∧ b.Relaxes m := by
  unfold merge at merged
  split at merged
  · exact ⟨Or.inl rfl, Or.inr (Option.some.inj merged)⟩
  · exact ⟨Or.inr (Option.some.inj merged), Or.inl rfl⟩
  · split at merged
    next same =>
      subst same
      exact ⟨Or.inr (Option.some.inj merged), Or.inr (Option.some.inj merged)⟩
    · cases merged

theorem merge_relaxes {a a' b b' m' : ElementType} (general : a.Relaxes a')
    (general' : b.Relaxes b') (merged : a'.merge b' = some m') :
    ∃ m, a.merge b = some m ∧ m.Relaxes m' := by
  have merge_dynamic (e : ElementType) : e.merge .dynamic = some e := by cases e <;> rfl
  obtain ⟨left, right⟩ := relaxes_of_merge merged
  rcases general with rfl | rfl
  · rcases general' with rfl | rfl
    · exact ⟨.dynamic, rfl, Or.inl rfl⟩
    · exact ⟨b, rfl, right⟩
  · rcases general' with rfl | rfl
    · exact ⟨a, merge_dynamic a, left⟩
    · exact ⟨m', merged, .refl m'⟩

theorem Relaxes.trans {a b c : ElementType} (first : a.Relaxes b) (second : b.Relaxes c) :
    a.Relaxes c := by
  rcases first with rfl | rfl
  · exact Or.inl rfl
  · exact second

theorem exists_known (etype : ElementType) : ∃ known, known ≠ dynamic ∧ etype.Relaxes known := by
  by_cases unknown : etype = dynamic
  · exact ⟨.int32, nofun, Or.inl unknown⟩
  · exact ⟨etype, unknown, .refl etype⟩

/-- Element types that agree may be one that is known. -/
theorem exists_common {a b m : ElementType} (merged : a.merge b = some m) :
    ∃ known, known ≠ dynamic ∧ a.Relaxes known ∧ b.Relaxes known := by
  obtain ⟨left, right⟩ := relaxes_of_merge merged
  obtain ⟨known, isKnown, relaxes⟩ := m.exists_known
  exact ⟨known, isKnown, left.trans relaxes, right.trans relaxes⟩

end ElementType

namespace Shape

theorem pairwise_iff (related : Dimension → Dimension → Bool) (as bs : List Dimension) :
    pairwise related as bs = true ↔ List.Forall₂ (fun a b => related a b = true) as bs := by
  induction as generalizing bs with
  | nil => cases bs <;> simp [pairwise]
  | cons a as ih => cases bs <;> simp [pairwise, ih]

theorem relaxes_refl (a : Shape) : a.relaxes a = true := by
  cases a with
  | dynamicRank => rfl
  | ranked dims =>
    rw [relaxes, pairwise_iff, List.forall₂_same]
    exact fun dim _ => dim.relaxes_refl

/-- A more specific shape of a known rank has that rank and more specific dimensions. -/
theorem ranked_relaxes {dims : List Dimension} {b : Shape}
    (general : (ranked dims).relaxes b = true) :
    ∃ dims', b = ranked dims' ∧
      List.Forall₂ (fun a b => Dimension.relaxes a b = true) dims dims' := by
  cases b with
  | dynamicRank => cases general
  | ranked dims' => exact ⟨dims', rfl, (pairwise_iff _ _ _).mp general⟩

theorem rank_relaxes {a b : Shape} (general : a.relaxes b = true) :
    a.rank.relaxes b.rank = true := by
  cases a with
  | dynamicRank => rfl
  | ranked dims =>
    obtain ⟨dims', rfl, each⟩ := ranked_relaxes general
    simp [rank, Dimension.relaxes, each.length_eq]

theorem compatible_of_relaxes {a a' : Shape} (b : Shape) (general : a.relaxes a' = true)
    (agree : a'.compatible b = true) : a.compatible b = true := by
  cases a with
  | dynamicRank => rfl
  | ranked dims =>
    obtain ⟨dims', rfl, each⟩ := ranked_relaxes general
    cases b with
    | dynamicRank => rfl
    | ranked others =>
      rw [compatible, pairwise_iff] at agree ⊢
      clear general
      induction each generalizing others with
      | nil => exact agree
      | cons head _ ih =>
        cases agree with
        | cons first rest =>
          exact .cons (Dimension.compatible_of_relaxes _ head first) (ih _ rest)

/-- What agrees with known lengths may have them. -/
theorem relaxes_of_compatible {shape : Shape} {lengths : List Nat}
    (agree : shape.compatible (.ofLengths lengths) = true) :
    shape.relaxes (.ofLengths lengths) = true := by
  cases shape with
  | dynamicRank => rfl
  | ranked dims =>
    rw [ofLengths, compatible, pairwise_iff, List.forall₂_map_right_iff] at agree
    rw [ofLengths, relaxes, pairwise_iff, List.forall₂_map_right_iff]
    refine agree.imp fun dim length agrees => ?_
    cases dim with
    | dynamic => rfl
    | static => exact agrees

theorem isShort_of_relaxes {a a' : Shape} (general : a.relaxes a' = true)
    (short : a'.isShort = true) : a.isShort = true := by
  cases a with
  | dynamicRank => rfl
  | ranked dims =>
    obtain ⟨dims', rfl, each⟩ := ranked_relaxes general
    rw [isShort, List.all_eq_true] at short ⊢
    intro dim among
    obtain ⟨dim', among', relaxes⟩ := Outcome.forall₂_mem_left each dim among
    exact Dimension.isShort_of_relaxes relaxes (short dim' among')

end Shape

namespace TensorType

/-- The shape refines the other one, and the element type is the same unless the other one is
unknown. -/
structure Refines (specific general : TensorType) : Prop where
  shape : specific.shape.refines general.shape = true
  etype : general.etype.Relaxes specific.etype

namespace Refines

variable {specific general : TensorType}

/-- The general shape is what every refinement of it relaxes to. -/
theorem relaxes (refines : specific.Refines general) :
    general.shape.relaxes specific.shape = true :=
  (Shape.refines_eq_relaxes _ _).symm.trans refines.shape

theorem of_relaxes (shape : general.shape.relaxes specific.shape = true)
    (etype : general.etype.Relaxes specific.etype) : specific.Refines general :=
  ⟨(Shape.refines_eq_relaxes _ _).trans shape, etype⟩

theorem refl (t : TensorType) : t.Refines t :=
  of_relaxes (Shape.relaxes_refl _) (.refl _)

/-- What is known in general can be written if all that is known can be. -/
theorem isShort (refines : specific.Refines general) (short : specific.isShort = true) :
    general.isShort = true :=
  Shape.isShort_of_relaxes refines.relaxes short

end Refines

theorem areShort_of_refines {specific general : List TensorType}
    (refines : List.Forall₂ Refines specific general)
    (short : specific.all isShort = true) : general.all isShort = true := by
  rw [List.all_eq_true] at short ⊢
  intro type member
  obtain ⟨type', among, refines⟩ := Outcome.forall₂_mem_left refines.flip type member
  exact refines.isShort (short type' among)

end TensorType

end OpGraph
