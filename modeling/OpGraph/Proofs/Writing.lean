import Mathlib.Algebra.Group.Nat.Defs
import OpGraph.Kernel.Affine
import OpGraph.Kernel.Substitutions
import OpGraph.Proofs.Outcome

/-!
# What is written of integers

The texts of integer lists and of index texts on their own, apart from whether they can be
written. The writers give these texts as long as every integer that stands in them is short, and
fail otherwise.
-/
namespace OpGraph

theorem Text.shortBound_eq : shortBound = 10 ^ literalDigitLimit := by
  rw [show literalDigitLimit = 43 * 100 from rfl, Nat.pow_mul]
  rfl

theorem Text.isShort_iff (n : Int) : isShort n = true ↔ n.natAbs < 10 ^ literalDigitLimit := by
  rw [isShort, decide_eq_true_iff, shortBound_eq]

theorem Value.isShort_ints (values : List Int) :
    (values.map Value.int).all Value.isShort = values.all Text.isShort := by
  rw [List.all_map]
  rfl

theorem Text.isShort_of_natAbs_le {a b : Int} (short : Text.isShort b = true)
    (below : a.natAbs ≤ b.natAbs) : Text.isShort a = true := by
  rw [Text.isShort_iff] at short ⊢
  omega

theorem Text.isShort_neg (a : Int) : Text.isShort (-a) = Text.isShort a := by
  simp [Text.isShort]

theorem Shape.isShort_ofLengths (lengths : List Nat) :
    (Shape.ofLengths lengths).isShort = lengths.all fun length => Text.isShort length := by
  simp only [Shape.ofLengths, Shape.isShort, List.all_map]
  rfl

def integerList (values : List Int) : String :=
  Text.bracketed (values.map fun n => toString n)

theorem mapM_writeInteger (values : List Int) : values.mapM writeInteger =
    if values.all Text.isShort then .ok (values.map fun n => toString n)
    else .error .numberTooLong :=
  mapM_writeWhen Text.isShort (fun n => toString n) values

theorem writeIntegers_eq (values : List Int) :
    writeIntegers values = writeWhen (values.all Text.isShort) (integerList values) := by
  unfold writeIntegers
  rw [mapM_writeInteger]
  cases values.all Text.isShort <;> rfl

theorem vectorText_ints (values : List Int) : vectorText (.tuple (values.map .int)) =
    writeWhen (values.all Text.isShort) (integerList values) := by
  have each : (values.map Value.int).mapM (fun item => do writeInteger (← item.toInt)) =
      values.mapM writeInteger := by
    rw [List.mapM_map]
    rfl
  unfold vectorText
  simp only [Value.items?, each]
  exact writeIntegers_eq values

namespace Affine

def termText (axis : String) (scale : Value) : String :=
  if scale.equalsInt 1 then axis else axis ++ " * " ++ scale.display

def indexText (offset : Value) (terms : List (String × Value)) : String :=
  let parts := (if offset.equalsInt 0 then [] else [offset.display]) ++
    terms.map fun (axis, scale) => termText axis scale
  if parts.isEmpty then "0" else " + ".intercalate parts

/-- Whether everything that is not left out can be written. -/
def isShort (offset : Value) (terms : List (String × Value)) : Bool :=
  (offset.equalsInt 0 || offset.isShort) &&
    terms.all fun (_, scale) => scale.equalsInt 1 || scale.isShort

theorem term_eq (axis : String) (scale : Value) :
    term axis scale = writeWhen (scale.equalsInt 1 || scale.isShort) (termText axis scale) := by
  unfold term termText Value.write
  cases scale.equalsInt 1 <;> cases scale.isShort <;> rfl

theorem index_eq (offset : Value) (terms : List (String × Value)) :
    index offset terms = writeWhen (isShort offset terms) (indexText offset terms) := by
  have scaled : terms.mapM (fun (axis, scale) => term axis scale) =
      if terms.all (fun (_, scale) => scale.equalsInt 1 || scale.isShort)
      then .ok (terms.map fun (axis, scale) => termText axis scale)
      else .error .numberTooLong := by
    simp only [term_eq]
    exact mapM_writeWhen (fun term => term.2.equalsInt 1 || term.2.isShort)
      (fun term => termText term.1 term.2) terms
  unfold index constant indexText isShort Value.write
  rw [scaled]
  cases offset.equalsInt 0 <;> cases offset.isShort <;>
    cases terms.all (fun (_, scale) => scale.equalsInt 1 || scale.isShort) <;> rfl

end Affine

end OpGraph
