import OpGraph.Kernel.NodeView
import OpGraph.Tensor

/-!
# The node store

Nodes are numbered in the order in which their construction was started. A construction that
was refused leaves its number unused. The output types of a node are unknown at first and are
set once, by inference; those of a parameter are set from the start.
-/
namespace OpGraph

structure Node where
  name : String
  operator : Operator
  producers : List Nat
  types : Option (List TensorType)
  deriving Inhabited

structure Store where
  slots : Array (Option Node)

namespace Store

def empty : Store :=
  ⟨#[]⟩

def find? (store : Store) (id : Nat) : Option Node :=
  (store.slots[id]?).join

def node (store : Store) (id : Nat) : Node :=
  (store.find? id).getD default

def name (store : Store) (id : Nat) : String :=
  (store.node id).name

def operator (store : Store) (id : Nat) : Operator :=
  (store.node id).operator

def producers (store : Store) (id : Nat) : List Nat :=
  (store.node id).producers

def isParameter (store : Store) (id : Nat) : Bool :=
  (store.operator id).isParameter

def isResolved (store : Store) (id : Nat) : Bool :=
  (store.node id).types.isSome

/-- The types a node starts with. -/
def initialTypes : Operator → Option (List TensorType)
  | .parameter type => some [type]
  | _ => none

def defaultName (id : Nat) : String :=
  "%" ++ toString id

/-- Starts the construction of a node; a parameter must not have producers. -/
def create (store : Store) (operator : Operator) (producers : List Nat)
    (name : Option String) : Store × Except Failure Nat :=
  let id := store.slots.size
  if operator.isParameter && !producers.isEmpty then
    (⟨store.slots.push none⟩, .error .parameterWithInputs)
  else
    (⟨store.slots.push (some ⟨name.getD (defaultName id), operator, producers,
      initialTypes operator⟩)⟩, .ok id)

def setTypes (store : Store) (id : Nat) (types : List TensorType) : Store :=
  ⟨store.slots.modify id fun slot => slot.map fun node => { node with types := some types }⟩

def outputTypes (store : Store) (id : Nat) : Except Failure (List TensorType) :=
  match (store.node id).types with
  | some types => .ok types
  | none => .error (.outputsUnresolved (store.name id))

/-- The first output type of a node. -/
def outputType (store : Store) (id : Nat) : Except Failure TensorType := do
  typeAt (← store.outputTypes id) 0

def requireResolved (store : Store) (id producer : Nat) : Except Failure Unit :=
  if store.isResolved producer then .ok ()
  else .error (.inputUnresolved (store.name producer) (store.name id))

/-- The first output types of the producers, all of which must be resolved. -/
def inputTypes (store : Store) (id : Nat) : Except Failure (List TensorType) := do
  (store.producers id).forM (store.requireResolved id)
  (store.producers id).mapM store.outputType

/-- The type at a place in a list; places below zero count from its end. -/
def typeFrom (types : List TensorType) (place : Int) : Except Failure TensorType :=
  let position := if place < 0 then place + types.length else place
  match position with
  | .ofNat position => typeAt types position
  | .negSucc _ => .error .positionOutOfRange

def inputTypeFrom (store : Store) (id : Nat) (place : Int) : Except Failure TensorType := do
  typeFrom (← store.inputTypes id) place

def outputTypeFrom (store : Store) (id : Nat) (place : Int) : Except Failure TensorType := do
  typeFrom (← store.outputTypes id) place

/-- A violation found at a node carries the name of the node. -/
def locate (name : String) : Failure → Failure
  | .invalid kind _ violation => .invalid kind (some name) violation
  | failure => failure

/-- The output types that a node gets from its producers. -/
def computeTypes (store : Store) (id : Nat) : Except Failure (List TensorType) := do
  ((store.operator id).infer (← store.inputTypes id)).mapError (locate (store.name id))

/-- Types are written for the progress report whenever they were found. -/
def report (types : List TensorType) : Except Failure (List TensorType) := do
  let _ ← types.mapM TensorType.write
  return types

/-- Resolves a node. A parameter is resolved already; another node must not be. The types are set
before they are reported, so a type that cannot be written fails a node that is resolved then. -/
def infer (store : Store) (id : Nat) : Store × Except Failure (List TensorType) :=
  if store.isParameter id then (store, store.outputTypes id)
  else if store.isResolved id then (store, .error (.alreadyResolved (store.name id)))
  else match store.computeTypes id with
    | .ok types => (store.setTypes id types, report types)
    | .error failure => (store, .error failure)

/-- Computes a node from the arrays of its producers. -/
def evaluate [Host] (store : Store) (id : Nat) (operands : List Tensor) :
    Except Failure (List Tensor) :=
  let expected := (store.producers id).length
  if operands.length = expected then (store.operator id).evaluate operands
  else .error (.operandCount operands.length expected)

def view (store : Store) (id : Nat) : NodeView where
  name := store.name id
  operator := store.operator id
  arity := (store.producers id).length
  inputTypes := store.inputTypes id
  outputTypes := store.outputTypes id

def declaredType : Operator → Except Failure (List String)
  | .parameter type => do return [← type.write]
  | _ => .ok []

/-- A node as the call of its operator on the names of its producers. -/
def text (store : Store) (id : Nat) : Except Failure String := do
  let operator := store.operator id
  let attributes ← operator.attributeTexts
  let declared ← declaredType operator
  return operator.kind ++ "(" ++
    Text.commaList ((store.producers id).map store.name ++ attributes ++ declared) ++ ")"

end Store

end OpGraph
