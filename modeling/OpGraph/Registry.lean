import OpGraph.Kernel.Translation.Convolution
import OpGraph.Kernel.Translation.Dot
import OpGraph.Kernel.Translation.ReplaceSlice
import OpGraph.Kernel.Translation.Slice
import OpGraph.Operator.Class

/-!
# The operator registry

Which kinds of operators there are, in the order of their registration, with the class that
makes operators of a kind and the translators that write its kernels.
-/
namespace OpGraph

inductive Translator where
  | convolutionDirect
  | convolutionIndexed
  | replaceSliceIndexed
  | sliceDirect
  | sliceIndexed
  | dotDirect
  | dotIndexed
  deriving DecidableEq

def Translator.run : Translator → NodeView → Except Failure Fragment
  | convolutionDirect => Convolution.translateDirect
  | convolutionIndexed => Convolution.translateIndexed
  | replaceSliceIndexed => ReplaceSlice.translateIndexed
  | sliceDirect => Slice.translateDirect
  | sliceIndexed => Slice.translateIndexed
  | dotDirect => Dot.translateDirect
  | dotIndexed => Dot.translateIndexed

structure OperatorDefinition where
  kind : String
  cls : OperatorClass
  translators : List (Dialect × Translator)

structure Registry where
  definitions : List OperatorDefinition

namespace Registry

def empty : Registry :=
  ⟨[]⟩

def find? (registry : Registry) (kind : String) : Option OperatorDefinition :=
  registry.definitions.find? fun definition => definition.kind == kind

def contains (registry : Registry) (kind : String) : Bool :=
  (registry.find? kind).isSome

def get (registry : Registry) (kind : String) : Except Failure OperatorDefinition :=
  match registry.find? kind with
  | some definition => .ok definition
  | none => .error (.unregistered kind)

def register (registry : Registry) (definition : OperatorDefinition) :
    Except Failure Registry :=
  if registry.contains definition.kind then .error (.alreadyRegistered definition.kind)
  else .ok ⟨registry.definitions ++ [definition]⟩

def supports (definition : OperatorDefinition) : Option Dialect → Bool
  | none => true
  | some dialect => definition.translators.any fun (d, _) => d == dialect

/-- The kinds registered, all of them or those with a translator for a dialect. -/
def kinds (registry : Registry) (dialect : Option Dialect) : List String :=
  (registry.definitions.filter fun definition => supports definition dialect).map (·.kind)

def translator (registry : Registry) (kind : String) (dialect : Dialect) :
    Except Failure Translator := do
  let definition ← registry.get kind
  match definition.translators.lookup dialect with
  | some translator => return translator
  | none => throw (.noTranslator kind dialect)

/-- The translators of other kinds under the names of dialects, each given by its kind and the
name of its dialect. -/
def borrow (registry : Registry) (sources : List (String × String × String)) :
    Except Failure (List (Dialect × Translator)) :=
  sources.mapM fun (name, kind, borrowed) => do
    let dialect ← Dialect.ofExactName name
    return (dialect, ← registry.translator kind (← Dialect.ofExactName borrowed))

/-- The kernel of a node, by the translator registered for its kind. -/
def translate (registry : Registry) (node : NodeView) (dialect : Dialect) :
    Except Failure Fragment := do
  (← registry.translator node.kind dialect).run node

/-- The operators of the library. -/
def libraryDefinitions : List OperatorDefinition :=
  [⟨"Parameter", .parameter, []⟩,
   ⟨Convolution.kind, .convolution,
    [(.direct, .convolutionDirect), (.indexed, .convolutionIndexed)]⟩,
   ⟨ReplaceSlice.kind, .replaceSlice, [(.indexed, .replaceSliceIndexed)]⟩,
   ⟨Slice.kind, .slice, [(.direct, .sliceDirect), (.indexed, .sliceIndexed)]⟩,
   ⟨Dot.kind, .dot, [(.direct, .dotDirect), (.indexed, .dotIndexed)]⟩]

def library : Registry :=
  ⟨libraryDefinitions⟩

/-- Registers definitions one by one up to the first that cannot be; what was registered
before it stays. -/
def registerAll (registry : Registry) : List OperatorDefinition → Registry × Except Failure Unit
  | [] => (registry, .ok ())
  | definition :: rest =>
    match registry.register definition with
    | .ok extended => extended.registerAll rest
    | .error failure => (registry, .error failure)

/-- Registers the library unless it is there already. -/
def loadLibrary (registry : Registry) : Registry × Except Failure Unit :=
  if registry.contains Convolution.kind then (registry, .ok ())
  else registry.registerAll libraryDefinitions

end Registry

end OpGraph
