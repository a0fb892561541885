import OpGraph.Proofs.Outcome

/-!
# Shapes of known lengths

Shapes all of whose dimensions are known stand for lists of lengths: they are compatible only
when the lists are equal, and the list can be read off again.
-/
namespace OpGraph

namespace Shape

theorem ofLengths_injective (a b : List Nat) : ofLengths a = ofLengths b ↔ a = b := by
  simp [ofLengths, List.map_inj_right (fun _ _ same => Dimension.static.inj same)]

theorem compatible_ofLengths (a b : List Nat) :
    (ofLengths a).compatible (ofLengths b) = true ↔ a = b := by
  simp only [ofLengths, compatible]
  induction a generalizing b with
  | nil => cases b <;> simp [pairwise]
  | cons extent a ih => cases b with
    | nil => simp [pairwise]
    | cons extent' b => simp [pairwise, Dimension.compatible, ih]

theorem lengths?_map_static (lengths : List Nat) :
    lengths? (lengths.map .static) = some lengths := by
  induction lengths with
  | nil => rfl
  | cons length lengths ih => simp [lengths?, ih]

@[simp] theorem toLengths_ofLengths (lengths : List Nat) :
    (ofLengths lengths).toLengths = .ok lengths := by
  simp [toLengths, ofLengths, lengths?_map_static]

theorem lengths?_eq_some {dims : List Dimension} {lengths : List Nat} :
    lengths? dims = some lengths ↔ dims = lengths.map .static := by
  constructor
  · intro known
    induction dims generalizing lengths with
    | nil =>
      cases known
      rfl
    | cons dim dims ih =>
      cases dim with
      | dynamic => cases known
      | static length =>
        obtain ⟨rest, later, rfl⟩ := Option.map_eq_some_iff.mp known
        rw [ih later, List.map_cons]
  · rintro rfl
    exact lengths?_map_static lengths

theorem toLengths_eq_ok {shape : Shape} {lengths : List Nat} :
    shape.toLengths = .ok lengths ↔ shape = ofLengths lengths := by
  cases shape with
  | dynamicRank => exact ⟨nofun, nofun⟩
  | ranked dims =>
    rw [ofLengths, ranked.injEq, ← lengths?_eq_some, toLengths]
    cases lengths? dims <;> simp

theorem isStatic_iff (shape : Shape) :
    shape.isStatic = true ↔ ∃ lengths, shape = ofLengths lengths := by
  cases shape with
  | dynamicRank => simp [isStatic, ofLengths]
  | ranked dims =>
    simp only [isStatic, ofLengths, ranked.injEq]
    induction dims with
    | nil => exact ⟨fun _ => ⟨[], rfl⟩, fun _ => rfl⟩
    | cons dim dims ih =>
      rw [List.all_cons, Bool.and_eq_true, ih]
      constructor
      · rintro ⟨known, lengths, rfl⟩
        cases dim with
        | dynamic => cases known
        | static length => exact ⟨length :: lengths, rfl⟩
      · rintro ⟨lengths, same⟩
        obtain _ | ⟨length, lengths⟩ := lengths
        · cases same
        · cases same
          exact ⟨rfl, lengths, rfl⟩

end Shape

/-- A shape that may have a rank has it or none that is known. -/
theorem Shape.ranked_of_compatible {shape : Shape} {rank : Nat}
    (ranked : shape.rank.compatible (.static rank) = true) :
    shape = .dynamicRank ∨ ∃ dims, shape = .ranked dims ∧ dims.length = rank := by
  cases shape with
  | dynamicRank => exact .inl rfl
  | ranked dims =>
    simp only [Shape.rank, Dimension.compatible, beq_iff_eq] at ranked
    exact .inr ⟨dims, rfl, ranked⟩

theorem Shape.four_of_compatible {shape : Shape}
    (ranked : shape.rank.compatible (.static 4) = true) :
    shape = .dynamicRank ∨ ∃ a b c d, shape = .ranked [a, b, c, d] := by
  refine (ranked_of_compatible ranked).imp_right ?_
  rintro ⟨dims, rfl, rank⟩
  obtain ⟨a, b, c, d, rfl⟩ := List.length_eq_four.mp rank
  exact ⟨a, b, c, d, rfl⟩

/-- The length, or another one where it is unknown. -/
def Dimension.lengthOr (d : Dimension) (unknown : Nat) : Nat :=
  match d with
  | dynamic => unknown
  | static length => length

@[simp] theorem Dimension.lengthOr_dynamic (unknown : Nat) :
    dynamic.lengthOr unknown = unknown :=
  rfl

@[simp] theorem Dimension.lengthOr_static (length unknown : Nat) :
    (static length).lengthOr unknown = length :=
  rfl

theorem Dimension.merge_static (a b : Nat) :
    ((static a).merge (static b)).isSome = true ↔ a = b := by
  unfold merge
  split <;> simp_all

theorem ElementType.merge_self (etype : ElementType) : etype.merge etype = some etype := by
  cases etype <;> rfl

/-- Element types that are known merge only with themselves. -/
theorem ElementType.merge_eq_some (a b merged : ElementType) (known : a ≠ dynamic)
    (known' : b ≠ dynamic) (merges : a.merge b = some merged) : a = merged ∧ b = merged := by
  unfold merge at merges
  split at merges
  · exact absurd rfl known
  · exact absurd rfl known'
  · split at merges
    next same =>
      cases merges
      exact ⟨rfl, same.symm⟩
    · cases merges

theorem TensorType.isConstant_iff (t : TensorType) :
    t.isConstant = true ↔
      ∃ lengths etype, etype ≠ ElementType.dynamic ∧ t = ⟨.ofLengths lengths, etype⟩ := by
  obtain ⟨shape, etype⟩ := t
  rw [isConstant, Bool.and_eq_true, Shape.isStatic_iff]
  constructor
  · rintro ⟨⟨lengths, rfl⟩, known⟩
    exact ⟨lengths, etype, by simpa [ElementType.isStatic, ElementType.isDynamic] using known, rfl⟩
  · rintro ⟨lengths, etype', known, same⟩
    cases same
    exact ⟨⟨lengths, rfl⟩, by simpa [ElementType.isStatic, ElementType.isDynamic] using known⟩

end OpGraph
