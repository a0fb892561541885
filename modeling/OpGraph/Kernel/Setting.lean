import OpGraph.Kernel.Substitutions

/-!
# Setting keys in place

The setters as they act on a single map, one call after the other. A setter first writes what it
is given as a text, a template with the values of the map as it stands, and then sets its key. A
call that fails keeps what it did before its failure, and the next one goes on from there.
-/
namespace OpGraph

/-- A call of a setter. -/
structure SetterCall where
  key : String
  setting : Setting

/-- Steps on a map that stays as a failing step leaves it. -/
abbrev Filling (α : Type) : Type :=
  ExceptT Failure (StateM Substitutions) α

/-- The result of a step, and the map that it leaves. -/
def Filling.outcome {α : Type} (step : Filling α) (subs : Substitutions) :
    Except Failure α × Substitutions :=
  (step.run.run subs).run

namespace SetterCall

/-- Sets a key of the map, as long as it is one. -/
def assign (key text : String) : Filling Unit := do
  unless Template.isKey key.toList do
    throw (.invalidKey key)
  modify fun subs => ⟨Substitutions.insert key text subs.entries⟩

def steps (call : SetterCall) : Filling Unit := do
  let subs ← get
  let text ← call.setting.write call.key subs
  assign call.key text

def perform (call : SetterCall) (subs : Substitutions) : Except Failure Unit × Substitutions :=
  Filling.outcome call.steps subs

end SetterCall

/-- The map after a row of calls. -/
def Substitutions.run (subs : Substitutions) : List SetterCall → Substitutions
  | [] => subs
  | call :: calls => (call.perform subs).2.run calls

end OpGraph
