import OpGraph.Kernel.NodeView

/-!
# Primitive calls

The direct dialect declares the inputs with their shapes and the output as the call of a
primitive over all inputs, followed by the arguments of its own.
-/
namespace OpGraph.Call

def template : String :=
  " - @inputs@ output(@output_shape@, topi=@primitive@(@args@)); "

def inputTemplate : String :=
  "input(\"@input_name@\", @input_shape@);"

def inputName (position : Nat) : String :=
  "input" ++ toString position

def declareInput (node : NodeView) (position : Nat) : Except Failure String := do
  let subs ← Substitutions.empty.setText "input_name" (.text (inputName position))
  let subs ← subs.setShape "input_shape" (← node.inputShape position)
  subs.render inputTemplate

def argument (position : Nat) : String :=
  "args(\"" ++ inputName position ++ "\")"

/-- The code of a call; `arguments` follow the inputs unless empty. -/
def code (node : NodeView) (primitive : Primitive) (arguments : String) :
    Except Failure String := do
  let positions := List.range node.arity
  let inputs ← positions.mapM (declareInput node)
  let operands := positions.map argument ++ (if arguments.isEmpty then [] else [arguments])
  let subs ← Substitutions.empty.setText "inputs" (.text (" ".intercalate inputs))
  let subs ← subs.setShape "output_shape" (← node.outputShape 0)
  let subs ← subs.setText "primitive" (.text primitive.name)
  let subs ← subs.setText "args" (.text (Text.commaList operands))
  subs.render template

end OpGraph.Call
