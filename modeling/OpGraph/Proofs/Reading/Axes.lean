import Mathlib.Data.List.Nodup
import OpGraph.Proofs.Writing
import OpGraph.Proofs.Reading.Parsing

/-!
# Axes of outputs

The axes of an output are numbered names. They are distinct, so at a coordinate of the output
each of them has the entry of the coordinate at its place as its value (`outputAxes_holds`).
-/
namespace OpGraph.Reading

/-- The axes have the entries of a coordinate as their values, place by place. -/
def Holds (axes : Axes) (names : List String) (index : List Nat) : Prop :=
  List.Forall₂ (fun name (i : Nat) => axes name = some (i : Int)) names index

theorem lookup_zip {α : Type} (names : List String) (values : List α) (nodup : names.Nodup)
    (ranks : names.length = values.length) :
    List.Forall₂ (fun name value => (names.zip values).lookup name = some value) names values := by
  induction names generalizing values with
  | nil =>
    rw [List.length_eq_zero_iff.mp ranks.symm]
    exact .nil
  | cons name names ih =>
    obtain _ | ⟨value, values⟩ := values
    · simp at ranks
    rw [List.nodup_cons] at nodup
    have later := ih values nodup.2 (by simpa using ranks)
    refine .cons (by simp) ?_
    rw [List.forall₂_iff_zip] at later ⊢
    refine ⟨later.1, fun {other value'} member => ?_⟩
    -- Later names find later values, since the first name is none of them.
    have differs : (other == name) = false := by
      have among : other ∈ names := (List.of_mem_zip member).1
      simp only [beq_eq_false_iff_ne]
      rintro rfl
      exact nodup.1 among
    simp only [List.zip_cons_cons, List.lookup_cons, differs]
    exact later.2 member

theorem outputAxes_holds (s : Statement) (index : List Nat) (nodup : s.axes.Nodup)
    (ranks : s.axes.length = index.length) : Holds (s.outputAxes index) s.axes index :=
  (lookup_zip s.axes index nodup ranks).imp fun name i found => by
    simp [Statement.outputAxes, found]

/-! ### Numbered names -/

theorem nodup_axes (stem : String) (rank : Nat) : (Affine.axes stem rank).Nodup := by
  refine List.Nodup.map ?_ List.nodup_range
  intro a b same
  have digits : Nat.repr a = Nat.repr b := by simpa using same
  have read := natural?_repr a
  rw [digits, natural?_repr, Option.some.injEq] at read
  exact read.symm

@[simp] theorem length_axes (stem : String) (rank : Nat) :
    (Affine.axes stem rank).length = rank := by
  simp [Affine.axes]

theorem tokens_name (name : String) (named : isName name = true)
    (plain : IsWord name) : tokens name = [.word name] := by
  apply tokens_word name _ plain
  rintro rfl
  cases named

/-- A word that is a name stands for the axis of this name. -/
theorem denotes_name (name : String) (named : isName name = true)
    (plain : IsWord name) : Denotes name (.axis name) := by
  rw [Denotes, tokens_name name named plain]
  exact (isFactor_axis name named).product.sum

private theorem numbered (n : Nat) : isName ("D" ++ toString n) = true ∧
    IsWord ("D" ++ toString n) := by
  have first : ("D" ++ toString n).toList = 'D' :: (Nat.repr n).toList := by
    rw [String.toList_append]
    rfl
  rw [isName, IsWord, first]
  refine ⟨rfl, fun c member => ?_⟩
  rcases List.mem_cons.mp member with rfl | digit
  · decide
  · exact isWordChar_of_isDigit c (toList_repr_digits n c digit)

theorem tokens_axis (name : String) (rank : Nat) (member : name ∈ Affine.axes "D" rank) :
    tokens name = [.word name] := by
  obtain ⟨n, -, rfl⟩ := List.mem_map.mp member
  exact tokens_name _ (numbered n).1 (numbered n).2

theorem isFactor_outputAxis (name : String) (rank : Nat) (member : name ∈ Affine.axes "D" rank) :
    IsFactor (tokens name) (.axis name) := by
  rw [tokens_axis name rank member]
  obtain ⟨n, -, rfl⟩ := List.mem_map.mp member
  exact isFactor_axis _ (numbered n).1

/-- The axes of an output stand for themselves. -/
theorem denotes_axes (rank : Nat) :
    List.Forall₂ Denotes (Affine.axes "D" rank) ((Affine.axes "D" rank).map .axis) :=
  Outcome.forall₂_map_of_forall _ _ _ fun name member =>
    (isFactor_outputAxis name rank member).product.sum

@[simp] theorem mapM_axis? (names : List String) :
    names.mapM (Index.axis? ∘ Index.axis) = some names := by
  rw [Outcome.mapM_eq_some_iff, List.forall₂_same]
  exact fun name _ => rfl

/-! ### Elements -/

/-- An access whose indices lie in bounds reads the element there. -/
theorem Access.value?_inBounds (inputs : Inputs) (axes : Axes) (access : Access) (t : Tensor)
    (index : List Nat) (found : inputs.lookup access.tensor = some t)
    (values : access.indices.mapM (Index.value? axes) = some (index.map Int.ofNat))
    (inside : NDArray.InBounds t.shape index) :
    access.value? inputs axes = some (t.elements.get index) := by
  simp only [Access.value?, found, values, Option.bind_eq_bind, Option.bind_some]
  exact elementAt?_natCast t index inside

theorem value?_axes (inputs : Inputs) (axes : Axes) (tensor : String) (names : List String)
    (t : Tensor) (index : List Nat) (found : inputs.lookup tensor = some t)
    (holds : Holds axes names index) (inside : NDArray.InBounds t.shape index) :
    (⟨tensor, names.map .axis⟩ : Access).value? inputs axes = some (t.elements.get index) := by
  refine Access.value?_inBounds inputs axes _ t index found ?_ inside
  rw [Outcome.mapM_eq_some_iff, List.forall₂_map_left_iff, List.forall₂_map_right_iff]
  exact holds

end OpGraph.Reading
