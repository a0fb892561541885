import OpGraph.Graph.Inference
import OpGraph.Graph.Translation

/-!
# Progress lines

The lines that report loading, inference and translation when they are asked for. They are
computed from the same stores and graphs as the results, and stop where a step failed.
-/
namespace OpGraph.Trace

def line (level place message : String) : String :=
  level ++ ":nnop." ++ place ++ ":" ++ message

def typeList (types : List TensorType) : String :=
  Text.commaList (types.map TensorType.text)

def loaded (graph : Graph) : String :=
  line "DEBUG" "graphs.loader" ("loaded graph " ++ graph.label ++ " with " ++
    toString graph.nodes.length ++ " nodes")

/-- Where an operator reports what it inferred, if it does. -/
def reportingPlace : Operator → Option String
  | .convolution _ => some "operators.convolution"
  | .replaceSlice _ => some "operators.replace_slice"
  | _ => none

def inferredByOperator (store : Store) (id : Nat) (types : List TensorType) : List String :=
  match reportingPlace (store.operator id), store.inputTypes id with
  | some place, .ok inputs =>
    [line "DEBUG" place ((store.operator id).kind ++ ": inferred " ++ typeList types ++ " from " ++
      Text.commaList (inputs.map fun type => type.shape.text))]
  | _, _ => []

def inferredByNode (store : Store) (id : Nat) (types : List TensorType) : String :=
  line "DEBUG" "graphs.node"
    (store.name id ++ ": " ++ (store.operator id).kind ++ " -> " ++ typeList types)

/-- The lines of resolving nodes in order. -/
def resolved (store : Store) : List Nat → List String
  | [] => []
  | id :: ids =>
    if store.isResolved id then resolved store ids
    else match store.infer id with
      | (next, .ok types) =>
        inferredByOperator store id types ++ inferredByNode store id types :: resolved next ids
      | (_, .error _) => []

def outputsInferred (graph : Graph) (types : List TensorType) : String :=
  line "INFO" "graphs.graph" ("graph " ++ graph.label ++ ": inferred outputs " ++ typeList types)

/-- The lines of inferring a graph. -/
def inferred (store : Store) (graph : Graph) : List String :=
  match graph.topological store, (graph.infer store).2 with
  | .ok order, .ok types => resolved store order ++ [outputsInferred graph types]
  | .ok order, .error _ => resolved store order
  | .error _, _ => []

def translating (graph : Graph) (dialect : Dialect) : String :=
  line "DEBUG" "cli.codegen"
    ("translating graph " ++ graph.label ++ " to the " ++ dialect.name ++ " dialect")

/-- Convolutions report their kernels. -/
def translatedNode (store : Store) (id : Nat) (fragment : Fragment) : List String :=
  match store.operator id with
  | .convolution _ =>
    let plan := match fragment.plan with
      | some plan => " plan: " ++ plan
      | none => ""
    [line "DEBUG" "codegen.translators.convolution"
      (store.name id ++ ": " ++ fragment.dialect.name ++ ": " ++ fragment.code ++ plan)]
  | _ => []

def translatedAll (registry : Registry) (store : Store) (dialect : Dialect) :
    List Nat → List String
  | [] => []
  | id :: ids =>
    if store.isParameter id then translatedAll registry store dialect ids
    else match registry.translate (store.view id) dialect with
      | .ok fragment =>
        translatedNode store id fragment ++ translatedAll registry store dialect ids
      | .error _ => []

/-- The lines of translating a graph. -/
def translated (registry : Registry) (store : Store) (graph : Graph) (dialect : Dialect) :
    List String :=
  match graph.topological store with
  | .ok order => translating graph dialect :: translatedAll registry store dialect order
  | .error _ => [translating graph dialect]

end OpGraph.Trace
