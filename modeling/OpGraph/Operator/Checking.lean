import OpGraph.Types.Reading

/-!
# Checking

The one step that checks are made of: a condition and the violation reported when it fails.
-/
namespace OpGraph

def Violation.report {α : Type} (kind : String) (violation : Violation) : Except Failure α :=
  .error (.invalid kind none violation)

/-- Passes when the condition holds and reports the violation otherwise. The message is written
in both cases, before the condition is looked at. -/
def require (kind : String) (holds : Bool) (violation : Violation) : Except Failure Unit := do
  let _ ← violation.write
  if holds then return () else violation.report kind

theorem require_of_short {kind : String} {holds : Bool} {violation : Violation}
    (short : violation.isShort = true) :
    require kind holds violation = if holds then .ok () else violation.report kind := by
  simp [require, Violation.write, writeWhen_of_short _ short, bind, Except.bind, pure, Except.pure]

theorem require_of_long {kind : String} {holds : Bool} {violation : Violation}
    (long : violation.isShort = false) :
    require kind holds violation = .error .numberTooLong := by
  simp [require, Violation.write, writeWhen_of_long _ long, bind, Except.bind]

/-- The common element type of two operands. -/
def requireElements (kind : String) (first second : ElementType) (violation : Violation) :
    Except Failure ElementType :=
  match first.merge second with
  | some etype => .ok etype
  | none => violation.report kind

end OpGraph
