import OpGraph.Number.Basic
import OpGraph.Writing

/-!
# Index texts

Sums of scaled axes as kernels write them: a zero offset and unit scales are left out.
-/
namespace OpGraph.Affine

def term (axis : String) (scale : Value) : Except Failure String := do
  if scale.equalsInt 1 then return axis else return axis ++ " * " ++ (← scale.write)

/-- The offset as a summand, unless it is zero. -/
def constant (offset : Value) : Except Failure (List String) := do
  if offset.equalsInt 0 then return [] else return [← offset.write]

/-- The text of `offset` plus the scaled axes. -/
def index (offset : Value) (terms : List (String × Value)) : Except Failure String := do
  let offsets ← constant offset
  let scaled ← terms.mapM fun (axis, scale) => term axis scale
  let parts := offsets ++ scaled
  return if parts.isEmpty then "0" else " + ".intercalate parts

/-- The names of the axes of a rank: a letter and the number of the axis. -/
def axes (stem : String) (rank : Nat) : List String :=
  (List.range rank).map fun axis => stem ++ toString axis

def layout (indices : List String) : String :=
  Text.bracketed indices

end OpGraph.Affine
