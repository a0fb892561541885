import OpGraph.Proofs.Outcome
import OpGraph.Types.Reading

/-!
# Shapes and plain values

A dimension stands for nothing, if it is unknown, or for its length. A row of plain values is
compared with a shape by reading it as a shape first, so a comparison is as strict as that: it
stops at the first item that stands for no dimension. Main statement: where there is none, a row is
equal to the shape whose dimensions its items stand for, and to no other (`equalsValue_row`).
-/
namespace OpGraph

namespace Dimension

/-- What a dimension is among plain values. -/
def toValue : Dimension → Value
  | dynamic => .none
  | static length => .int length

/-- Why a plain value is read as no dimension: the value is named, if it can be written. -/
inductive IsRefused : Value → Failure → Prop
  | negative {n : Int} (below : n < 0) (short : Text.isShort n = true) :
    IsRefused (.int n) (.negativeLength n)
  | foreign {value : Value} (unknown : value ≠ .none) (noInteger : ∀ n, value ≠ .int n)
      (short : value.isShort = true) : IsRefused value (.lengthNotInteger value)
  | overlong {value : Value} (noLength : ∀ n : Nat, value ≠ .int n) (long : value.isShort = false) :
    IsRefused value .numberTooLong

theorem ofValue_eq_ok {value : Value} {dim : Dimension} :
    ofValue value = .ok dim ↔ value = dim.toValue := by
  constructor
  · intro read
    cases value with
    | none =>
      cases read
      rfl
    | int n =>
      cases n with
      | ofNat length =>
        cases read
        rfl
      | negSucc n => cases read
    | _ => cases read
  · rintro rfl
    cases dim <;> rfl

/-- A value that is neither nothing nor an integer is named in the failure. -/
theorem ofValue_foreign {value : Value} (unknown : value ≠ .none) (noInteger : ∀ n, value ≠ .int n) :
    ofValue value = (Failure.lengthNotInteger value).raise := by
  cases value with
  | none => exact absurd rfl unknown
  | int n => exact absurd rfl (noInteger n)
  | _ => rfl

/-- Exactly the reason that is given is the failure. -/
theorem ofValue_eq_error {value : Value} {failure : Failure} :
    ofValue value = .error failure ↔ IsRefused value failure := by
  constructor
  · intro refused
    by_cases unknown : value = .none
    · rw [unknown] at refused
      cases refused
    by_cases integer : ∃ n, value = .int n
    · obtain ⟨n, rfl⟩ := integer
      cases n with
      | ofNat length => cases refused
      | negSucc n =>
        have raised : (Failure.negativeLength (.negSucc n)).raise = .error failure := refused
        obtain ⟨short, rfl⟩ | ⟨long, rfl⟩ := Failure.raise_eq_error.mp raised
        · exact .negative (Int.negSucc_lt_zero n) short
        · exact .overlong nofun long
    · have noInteger : ∀ n, value ≠ .int n := fun n same => integer ⟨n, same⟩
      rw [ofValue_foreign unknown noInteger] at refused
      obtain ⟨short, rfl⟩ | ⟨long, rfl⟩ := Failure.raise_eq_error.mp refused
      · exact .foreign unknown noInteger short
      · exact .overlong (fun length => noInteger length) long
  · rintro (⟨below, short⟩ | ⟨unknown, noInteger, short⟩ | ⟨noLength, long⟩)
    · obtain ⟨n, rfl⟩ := Int.eq_negSucc_of_lt_zero below
      exact Failure.raise_eq_error.mpr (.inl ⟨short, rfl⟩)
    · rw [ofValue_foreign unknown noInteger]
      exact Failure.raise_eq_error.mpr (.inl ⟨short, rfl⟩)
    · have unknown : value ≠ .none := by
        rintro rfl
        cases long
      by_cases integer : ∃ n, value = .int n
      · obtain ⟨n, rfl⟩ := integer
        cases n with
        | ofNat length => exact absurd rfl (noLength length)
        | negSucc n => exact Failure.raise_eq_error.mpr (.inr ⟨long, rfl⟩)
      · rw [ofValue_foreign unknown fun n same => integer ⟨n, same⟩]
        exact Failure.raise_eq_error.mpr (.inr ⟨long, rfl⟩)

theorem toValue_injective : Function.Injective toValue := by
  intro dim dim' same
  have read := ofValue_eq_ok.mpr same
  rw [ofValue_eq_ok.mpr rfl] at read
  exact Except.ok.inj read

/-- Comparing a dimension with any value gives an answer. -/
theorem equalsValue_iff {dim : Dimension} {value : Value} :
    dim.equalsValue value = true ↔ ∃ length : Nat, dim = .static length ∧ value = .int length := by
  cases dim with
  | dynamic => simp [equalsValue]
  | static length =>
    simp only [static.injEq, exists_eq_left']
    cases value with
    | int n => rw [equalsValue, beq_iff_eq, Value.int.injEq, eq_comm]
    | _ => exact ⟨nofun, nofun⟩

end Dimension

namespace Shape

/-- A shape of known rank, and its dimensions as plain values. -/
def IsRow (shape : Shape) (items : List Value) : Prop :=
  ∃ dims, shape = .ranked dims ∧ items = dims.map Dimension.toValue

theorem isRow_ranked {shape : Shape} {dims : List Dimension} :
    shape.IsRow (dims.map Dimension.toValue) ↔ shape = .ranked dims := by
  constructor
  · rintro ⟨dims', rfl, same⟩
    rw [List.map_injective_iff.mpr Dimension.toValue_injective same]
  · rintro rfl
    exact ⟨dims, rfl, rfl⟩

theorem mapM_ofValue_eq_ok {items : List Value} {dims : List Dimension} :
    items.mapM Dimension.ofValue = .ok dims ↔ items = dims.map Dimension.toValue := by
  simp only [Outcome.mapM_eq_ok_iff, Dimension.ofValue_eq_ok]
  rw [← List.forall₂_map_right_iff, List.forall₂_eq_eq_eq]

theorem exists_dims {items : List Value}
    (each : ∀ item ∈ items, ∃ dim, item = Dimension.toValue dim) :
    ∃ dims : List Dimension, items = dims.map Dimension.toValue := by
  induction items with
  | nil => exact ⟨[], rfl⟩
  | cons item items ih =>
    obtain ⟨⟨dim, rfl⟩, later⟩ := List.forall_mem_cons.mp each
    obtain ⟨dims, rfl⟩ := ih later
    exact ⟨dim :: dims, rfl⟩

theorem equalsValue_eq_ok {shape : Shape} {items : List Value} {same : Bool} :
    shape.equalsValue (.list items) = .ok same ↔
      ∃ dims, items = dims.map Dimension.toValue ∧ (same = true ↔ shape = .ranked dims) := by
  have answered (dims : List Dimension) :
      shape.sameScheme (.ranked dims) = same ↔ (same = true ↔ shape = .ranked dims) := by
    rw [eq_comm, Bool.eq_iff_iff, sameScheme_iff]
  simp only [equalsValue, ofItems, Outcome.bind_eq_ok, Outcome.pure_eq_ok, mapM_ofValue_eq_ok]
  constructor
  · rintro ⟨_, ⟨dims, row, rfl⟩, answer⟩
    exact ⟨dims, row, (answered dims).mp answer⟩
  · rintro ⟨dims, row, answer⟩
    exact ⟨_, ⟨dims, row, rfl⟩, (answered dims).mpr answer⟩

theorem equalsValue_eq_error {shape : Shape} {items : List Value} {failure : Failure} :
    shape.equalsValue (.list items) = .error failure ↔
      items.mapM Dimension.ofValue = .error failure := by
  rw [equalsValue, ofItems]
  cases items.mapM Dimension.ofValue with
  | ok dims => exact ⟨nofun, nofun⟩
  | error failure' =>
    rw [Outcome.error_bind, Outcome.error_bind, Except.error.injEq, Except.error.injEq]

/-- A row of plain values is compared with a shape just when each of its items stands for a
dimension, and is equal to it just when these are the dimensions of the shape. Otherwise the
comparison fails at the first item that stands for none. -/
theorem equalsValue_row (shape : Shape) (items : List Value) :
    shape.equalsValue (.tuple items) = shape.equalsValue (.list items) ∧
      (∀ same, shape.equalsValue (.list items) = .ok same ↔
        (∀ item ∈ items, ∃ dim, item = Dimension.toValue dim) ∧
          (same = true ↔ shape.IsRow items)) ∧
      (∀ failure, shape.equalsValue (.list items) = .error failure ↔
        ∃ before item after, items = before ++ item :: after ∧
          (∀ earlier ∈ before, ∃ dim, earlier = Dimension.toValue dim) ∧
          Dimension.IsRefused item failure) ∧
      ∀ (dim : Dimension) (value : Value), dim.equalsValue value = true ↔
        ∃ length : Nat, dim = .static length ∧ value = .int length := by
  refine ⟨rfl, fun same => ?_, fun failure => ?_, fun dim value => Dimension.equalsValue_iff⟩
  · rw [equalsValue_eq_ok]
    constructor
    · rintro ⟨dims, rfl, answer⟩
      refine ⟨?_, answer.trans isRow_ranked.symm⟩
      rw [List.forall_mem_map]
      exact fun dim _ => ⟨dim, rfl⟩
    · rintro ⟨each, answer⟩
      obtain ⟨dims, rfl⟩ := exists_dims each
      exact ⟨dims, rfl, answer.trans isRow_ranked⟩
  · rw [equalsValue_eq_error, Outcome.mapM_eq_error_iff]
    simp only [Dimension.ofValue_eq_ok, Dimension.ofValue_eq_error]

/-- Even a row of another length is read to its end. -/
example : (ranked [.static 2]).equalsValue (.list [.int 2, .bool true]) =
    .error (.lengthNotInteger (.bool true)) :=
  rfl

end Shape

end OpGraph
