import OpGraph.Text.Integer

/-!
# Dimensions

A tensor dimension is either a length or unknown. An unknown dimension is compatible with
every other; two lengths are compatible only when equal. `merge` keeps what is known on
either side.
-/
namespace OpGraph

inductive Dimension where
  | dynamic
  | static (length : Nat)
  deriving DecidableEq, Inhabited

namespace Dimension

def isStatic : Dimension → Bool
  | dynamic => false
  | static _ => true

def isDynamic (d : Dimension) : Bool :=
  !d.isStatic

def compatible : Dimension → Dimension → Bool
  | static a, static b => a == b
  | _, _ => true

/-- The first dimension is at least as general as the second. -/
def relaxes : Dimension → Dimension → Bool
  | dynamic, _ => true
  | static a, static b => a == b
  | static _, dynamic => false

/-- The first dimension is at least as specific as the second. -/
def refines : Dimension → Dimension → Bool
  | _, dynamic => true
  | static a, static b => a == b
  | dynamic, static _ => false

/-- Both dimensions are unknown, or they are one length. -/
def sameScheme : Dimension → Dimension → Bool
  | static a, static b => a == b
  | dynamic, dynamic => true
  | _, _ => false

theorem refines_eq_relaxes (a b : Dimension) : a.refines b = b.relaxes a := by
  cases a <;> cases b <;> simp [refines, relaxes, Bool.beq_comm]

theorem sameScheme_iff (a b : Dimension) : a.sameScheme b = true ↔ a = b := by
  cases a <;> cases b <;> simp [sameScheme]

/-- The most specific dimension that both sides allow, if there is one. -/
def merge : Dimension → Dimension → Option Dimension
  | dynamic, b => some b
  | a, dynamic => some a
  | static a, static b => if a = b then some (static a) else none

/-- Arithmetic on lengths; the result is unknown as soon as one side is. -/
def lift (f : Nat → Nat → Nat) : Dimension → Dimension → Dimension
  | static a, static b => static (f a b)
  | _, _ => dynamic

def add : Dimension → Dimension → Dimension :=
  lift (· + ·)

def mul : Dimension → Dimension → Dimension :=
  lift (· * ·)

def text : Dimension → String
  | dynamic => "?"
  | static length => toString length

/-- Whether the length, if it is known, can be written. -/
def isShort : Dimension → Bool
  | dynamic => true
  | static length => Text.isShort length

/-- The length as a value, absent when unknown. -/
def lengthText : Dimension → String
  | dynamic => "None"
  | static length => toString length

def quoted (d : Dimension) : String :=
  "Dimension(" ++ d.lengthText ++ ")"

end Dimension

end OpGraph
