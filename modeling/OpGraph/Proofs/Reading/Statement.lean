import Mathlib.Algebra.Field.Rat
import OpGraph.Proofs.Array
import OpGraph.Proofs.Reading.Index
import OpGraph.Tensor

/-!
# Statements of kernels

What a kernel of the indexed dialect says once it is read. A statement gives an element of the
output for every coordinate of it: the product of elements of the inputs, or another element
where a condition of the guard is not met. Axes that are none of the output are summed over;
their extents are declared, or they are those of the input axis at which they stand alone.

Every element is read strictly: `elementAt?` has no value outside of the tensor, so a statement
that runs has read inside of its inputs only. Main statement: a statement runs to the array of
its elements as soon as each of them has a value (`run?_eq_some`).
-/
namespace OpGraph

namespace Reading

/-- An element of a tensor. -/
structure Access where
  tensor : String
  indices : List Index
  deriving DecidableEq

inductive Comparison where
  | atLeast
  | below
  | equal
  deriving DecidableEq

structure Condition where
  left : Index
  comparison : Comparison
  right : Index
  deriving DecidableEq

inductive Operand where
  | constant (value : Rat)
  | element (access : Access)
  deriving DecidableEq

/-- Conditions, and the operand that counts where one of them is not met. -/
structure Guard where
  conditions : List Condition
  otherwise : Operand
  deriving DecidableEq

structure Statement where
  output : String
  axes : List String
  accumulates : Bool
  factors : List Access
  guard : Option Guard
  domains : List (String × Nat)
  deriving DecidableEq

abbrev Inputs := List (String × Tensor)

/-- The values of the axes at one point of the computation. -/
abbrev Axes := String → Option Int

def elementAt? (tensor : Tensor) (coordinates : List Int) : Option Rat :=
  if (∀ c ∈ coordinates, 0 ≤ c) ∧ NDArray.InBounds tensor.shape (coordinates.map Int.toNat) then
    some (tensor.elements.get (coordinates.map Int.toNat))
  else none

theorem elementAt?_natCast (t : Tensor) (index : List Nat)
    (inside : NDArray.InBounds t.shape index) :
    elementAt? t (index.map Int.ofNat) = some (t.elements.get index) := by
  have back : (index.map Int.ofNat).map Int.toNat = index := by
    rw [List.map_map]
    exact List.map_id index
  have nonneg : ∀ c ∈ index.map Int.ofNat, 0 ≤ c := by
    intro c member
    obtain ⟨i, -, rfl⟩ := List.mem_map.mp member
    exact Int.natCast_nonneg i
  rw [elementAt?, if_pos ⟨nonneg, by rwa [back]⟩, back]

def Access.value? (inputs : Inputs) (axes : Axes) (access : Access) : Option Rat := do
  let tensor ← inputs.lookup access.tensor
  elementAt? tensor (← access.indices.mapM (Index.value? axes))

def Comparison.holds : Comparison → Int → Int → Bool
  | atLeast, a, b => b ≤ a
  | below, a, b => a < b
  | equal, a, b => a = b

def Condition.holds? (axes : Axes) (condition : Condition) : Option Bool := do
  return condition.comparison.holds (← condition.left.value? axes) (← condition.right.value? axes)

def Operand.value? (inputs : Inputs) (axes : Axes) : Operand → Option Rat
  | constant value => some value
  | element access => access.value? inputs axes

/-- The axes standing alone in an access, with the extents of the tensor there. -/
def Access.extents (inputs : Inputs) (access : Access) : List (String × Nat) :=
  match inputs.lookup access.tensor with
  | none => []
  | some tensor => (access.indices.zip tensor.shape).filterMap fun
    | (.axis name, extent) => some (name, extent)
    | _ => none

def Operand.accesses : Operand → List Access
  | constant _ => []
  | element access => [access]

/-- The sum of a term over the positions of an axis, if all terms have values. -/
def sum? (extent : Nat) (term : Nat → Option Rat) : Option Rat := do
  return (← (List.range extent).mapM term).sum

/-- The values of the axes once one more has a value. -/
def Axes.assign (axes : Axes) (name : String) (value : Nat) : Axes :=
  fun axis => if axis = name then some (value : Int) else axes axis

/-- The sum of a term over all values of some axes. -/
def sumOver? : List (String × Nat) → Axes → (Axes → Option Rat) → Option Rat
  | [], axes, term => term axes
  | (name, extent) :: rest, axes, term =>
    sum? extent fun value => sumOver? rest (axes.assign name value) term

/-! ### Conditions -/

/-- Conditions that all have truth values, and are all met exactly when something holds. -/
def Meet (axes : Axes) (conditions : List Condition) (all : Prop) : Prop :=
  ∃ met, conditions.mapM (Condition.holds? axes) = some met ∧ (met.all id = true ↔ all)

theorem Meet.nil (axes : Axes) : Meet axes [] True :=
  ⟨[], rfl, by simp⟩

theorem Meet.single {axes : Axes} {condition : Condition} (met : Bool)
    (holds : condition.holds? axes = some met) : Meet axes [condition] (met = true) :=
  ⟨[met], by simp [holds], by simp⟩

theorem Meet.append {axes : Axes} {front back : List Condition} {some' all : Prop}
    (first : Meet axes front some') (second : Meet axes back all) :
    Meet axes (front ++ back) (some' ∧ all) := by
  obtain ⟨met, values, exact⟩ := first
  obtain ⟨met', values', exact'⟩ := second
  exact ⟨met ++ met', by simp [List.mapM_append, values, values'], by simp [← exact, ← exact']⟩

theorem Meet.iff {axes : Axes} {conditions : List Condition} {all all' : Prop}
    (meet : Meet axes conditions all) (same : all ↔ all') : Meet axes conditions all' := by
  obtain ⟨met, values, exact⟩ := meet
  exact ⟨met, values, exact.trans same⟩

namespace Statement

/-- The product of the factors at one point. -/
def product? (s : Statement) (inputs : Inputs) (axes : Axes) : Option Rat := do
  return (← s.factors.mapM (Access.value? inputs axes)).prod

/-- The term at one point. All conditions are looked at before the factors are. -/
def term? (s : Statement) (inputs : Inputs) (axes : Axes) : Option Rat :=
  match s.guard with
  | none => s.product? inputs axes
  | some guard => do
    let met ← guard.conditions.mapM (Condition.holds? axes)
    if met.all id then s.product? inputs axes else guard.otherwise.value? inputs axes

theorem term?_of_meet (s : Statement) (inputs : Inputs) (axes : Axes) (guard : Guard)
    (all : Prop) [Decidable all] (guarded : s.guard = some guard)
    (meet : Meet axes guard.conditions all) :
    s.term? inputs axes =
      if all then s.product? inputs axes else guard.otherwise.value? inputs axes := by
  obtain ⟨met, values, exact⟩ := meet
  simp only [term?, guarded, values, Option.bind_eq_bind, Option.bind_some, exact]

def accesses (s : Statement) : List Access :=
  s.factors ++ (match s.guard with
    | none => []
    | some guard => guard.otherwise.accesses)

/-- The extents of the axes; where an axis has several, the first counts. -/
def extents (s : Statement) (inputs : Inputs) (shape : List Nat) : List (String × Nat) :=
  s.axes.zip shape ++ s.domains ++ s.accesses.flatMap (Access.extents inputs)

/-- The axes that are summed over: those of the factors that are none of the output. -/
def reduced (s : Statement) : List String :=
  (s.factors.flatMap fun access => access.indices.flatMap Index.names).eraseDups.filter
    fun name => !s.axes.contains name

/-- Nothing is summed over where the factors read axes of the output only. -/
theorem reduced_eq_nil (s : Statement)
    (outer : ∀ access ∈ s.factors, ∀ index ∈ access.indices, ∀ name ∈ index.names, name ∈ s.axes) :
    s.reduced = [] := by
  rw [reduced, List.filter_eq_nil_iff]
  intro name member
  rw [List.mem_eraseDups, List.mem_flatMap] at member
  obtain ⟨access, factor, inAccess⟩ := member
  obtain ⟨index, among, read⟩ := List.mem_flatMap.mp inAccess
  simpa using outer access factor index among name read

/-- A declared extent of an axis of the output must be its extent there. -/
def domainsAgree (s : Statement) (shape : List Nat) : Bool :=
  s.domains.all fun (name, extent) => ((s.axes.zip shape).lookup name).all (· == extent)

/-- The values of the axes of the output at a coordinate. -/
def outputAxes (s : Statement) (index : List Nat) : Axes :=
  fun name => ((s.axes.zip index).lookup name).map Int.ofNat

def reducedExtents? (s : Statement) (inputs : Inputs) (shape : List Nat) :
    Option (List (String × Nat)) :=
  s.reduced.mapM fun name => ((s.extents inputs shape).lookup name).map (name, ·)

/-- Runs a statement for an output of a shape. The first input fixes the element type; elements
are reduced to it once, at the end. -/
def run? (s : Statement) (inputs : Inputs) (shape : List Nat) : Option Tensor := do
  let (_, first) ← inputs.head?
  if s.output ≠ "output0" ∨ s.axes.length ≠ shape.length ∨ s.domainsAgree shape = false then none
  else
    let reduced ← s.reducedExtents? inputs shape
    if s.accumulates = false ∧ reduced ≠ [] then none
    else
      let elements ← NDArray.tabulate? shape fun index =>
        (sumOver? reduced (s.outputAxes index) (s.term? inputs)).map first.etype.reduce
      return Tensor.ofElements first.etype elements

theorem run?_eq_some (s : Statement) (name : String) (first : Tensor) (others : Inputs)
    (shape : List Nat) (reduced : List (String × Nat)) (value : List Nat → Rat)
    (output : s.output = "output0") (rank : s.axes.length = shape.length)
    (domains : s.domainsAgree shape = true)
    (extents : s.reducedExtents? ((name, first) :: others) shape = some reduced)
    (assigned : s.accumulates = false → reduced = [])
    (each : ∀ index, NDArray.InBounds shape index →
      sumOver? reduced (s.outputAxes index) (s.term? ((name, first) :: others)) =
        some (value index)) :
    s.run? ((name, first) :: others) shape =
      some (.ofElements first.etype (.ofFn shape fun index => first.etype.reduce (value index))) := by
  have elements := NDArray.tabulate?_eq_some shape
    (fun index => (sumOver? reduced (s.outputAxes index)
      (s.term? ((name, first) :: others))).map first.etype.reduce)
    (fun index => first.etype.reduce (value index))
    (fun index inside => by simp only [each index inside, Option.map_some])
  have unreduced : ¬(s.accumulates = false ∧ reduced ≠ []) := fun ⟨assigns, nonempty⟩ =>
    nonempty (assigned assigns)
  simp [run?, output, rank, domains, extents, unreduced, elements]

end Statement

/-- A sum all of whose terms have values has the sum of these as its value. -/
theorem sum?_eq_some (extent : Nat) (term : Nat → Option Rat) (value : Nat → Rat)
    (each : ∀ k < extent, term k = some (value k)) :
    sum? extent term = some (Tensor.total extent value) := by
  have terms := Outcome.mapM_eq_some_map term value (List.range extent)
    fun k member => each k (List.mem_range.mp member)
  simp only [sum?, terms, Option.bind_eq_bind, Option.bind_some, Option.pure_def]
  rfl

theorem sum?_three (l m n : Nat) (term : Nat → Nat → Nat → Option Rat)
    (value : Nat → Nat → Nat → Rat)
    (each : ∀ i < l, ∀ j < m, ∀ k < n, term i j k = some (value i j k)) :
    (sum? l fun i => sum? m fun j => sum? n fun k => term i j k) =
      some (Tensor.total l fun i => Tensor.total m fun j => Tensor.total n fun k => value i j k) := by
  refine sum?_eq_some _ _ _ fun i below => ?_
  refine sum?_eq_some _ _ _ fun j below' => ?_
  exact sum?_eq_some _ _ _ fun k below'' => each i below j below' k below''

end Reading

end OpGraph
