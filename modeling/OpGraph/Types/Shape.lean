import OpGraph.Text.Fields
import OpGraph.Types.Dimension

/-!
# Partial shapes

A shape has either an unknown rank, and then nothing is known about it, or a list of
dimensions, each of which may be unknown. The relations are those of the dimensions, position
by position, with the shape of unknown rank as the most general one.
-/
namespace OpGraph

inductive Shape where
  | dynamicRank
  | ranked (dims : List Dimension)
  deriving DecidableEq, Inhabited

namespace Shape

def ofLengths (lengths : List Nat) : Shape :=
  .ranked (lengths.map .static)

/-- Unknown dimensions of a given rank. -/
def ofRank : Dimension → Shape
  | .dynamic => .dynamicRank
  | .static rank => .ranked (List.replicate rank .dynamic)

def rank : Shape → Dimension
  | dynamicRank => .dynamic
  | ranked dims => .static dims.length

def isStatic : Shape → Bool
  | dynamicRank => false
  | ranked dims => dims.all Dimension.isStatic

def isDynamic (shape : Shape) : Bool :=
  !shape.isStatic

/-- A relation between dimensions holds position by position, on lists of one length. -/
def pairwise (related : Dimension → Dimension → Bool) :
    List Dimension → List Dimension → Bool
  | [], [] => true
  | a :: as, b :: bs => related a b && pairwise related as bs
  | _, _ => false

def compatible : Shape → Shape → Bool
  | ranked as, ranked bs => pairwise Dimension.compatible as bs
  | _, _ => true

def relaxes : Shape → Shape → Bool
  | dynamicRank, _ => true
  | ranked as, ranked bs => pairwise Dimension.relaxes as bs
  | ranked _, dynamicRank => false

def refines : Shape → Shape → Bool
  | _, dynamicRank => true
  | ranked as, ranked bs => pairwise Dimension.refines as bs
  | dynamicRank, ranked _ => false

/-- Nothing is known of either shape, or their dimensions are the same. -/
def sameScheme : Shape → Shape → Bool
  | ranked as, ranked bs => pairwise Dimension.sameScheme as bs
  | dynamicRank, dynamicRank => true
  | _, _ => false

theorem pairwise_flip {related converse : Dimension → Dimension → Bool}
    (flips : ∀ a b, related a b = converse b a) (as bs : List Dimension) :
    pairwise related as bs = pairwise converse bs as := by
  induction as generalizing bs with
  | nil => cases bs <;> rfl
  | cons a as ih =>
    cases bs with
    | nil => rfl
    | cons b bs => simp only [pairwise, flips a b, ih bs]

theorem refines_eq_relaxes (a b : Shape) : a.refines b = b.relaxes a := by
  cases a <;> cases b <;>
    simp only [refines, relaxes, pairwise_flip Dimension.refines_eq_relaxes]

theorem pairwise_sameScheme_iff (as bs : List Dimension) :
    pairwise Dimension.sameScheme as bs = true ↔ as = bs := by
  induction as generalizing bs with
  | nil => cases bs <;> simp [pairwise]
  | cons a as ih => cases bs <;> simp [pairwise, Dimension.sameScheme_iff, ih]

theorem sameScheme_iff (a b : Shape) : a.sameScheme b = true ↔ a = b := by
  cases a <;> cases b <;> simp [sameScheme, pairwise_sameScheme_iff]

def mergeDims : List Dimension → List Dimension → Option (List Dimension)
  | [], [] => some []
  | a :: as, b :: bs =>
    match a.merge b, mergeDims as bs with
    | some dim, some dims => some (dim :: dims)
    | _, _ => none
  | _, _ => none

/-- The most specific shape that both sides allow, if there is one. -/
def merge : Shape → Shape → Option Shape
  | dynamicRank, b => some b
  | a, dynamicRank => some a
  | ranked as, ranked bs => (mergeDims as bs).map ranked

/-- The merges of each further shape into the current one; a shape that cannot be merged
leaves the current one as it is. -/
def mergeRun (current : Shape) : List Shape → List (Option Shape)
  | [] => []
  | next :: rest =>
    match current.merge next with
    | some merged => some merged :: mergeRun merged rest
    | none => none :: mergeRun current rest

def text : Shape → String
  | dynamicRank => "?"
  | ranked dims => "\x7b" ++ ",".intercalate (dims.map Dimension.text) ++ "\x7d"

def isShort : Shape → Bool
  | dynamicRank => true
  | ranked dims => dims.all Dimension.isShort

def quoted : Shape → String
  | dynamicRank => "PartialShape(None)"
  | ranked dims => "PartialShape(" ++ Text.bracketed (dims.map Dimension.lengthText) ++ ")"

end Shape

end OpGraph
