import OpGraph.Kernel.Dialect
import OpGraph.Markup.Fault
import OpGraph.Operator.Violation

/-!
# Failures

Everything that can go wrong, by cause. `Failure.message` is the text shown for a cause; the
causes that have none come from malformed values and array operands. The text is made when the
failure is raised, and where a number in it has too many digits to be written, that is the
failure (`Failure.raise`).
-/
namespace OpGraph

/-- What can be wrong with a graph description whose markup is right. -/
inductive DescriptionFault where
  | notADescription (account : String)
  | duplicateName (name : String)
  | negativeDimension (input : String) (length : Int)
  | unknownElement (input : String) (etype : String)
  | notInteger (text : String)
  | unknownOperator (node kind : String)
  | parameterNode (node : String)
  | undefinedInputs (node : String) (names : List String)
  | invalidAttributes (node kind account : String)
  | undefinedOutputs (names : List String)

/-- What can be wrong with the operands of an array operation. -/
inductive ArrayFault where
  | shapes
  | negativeSize
  | zeroStep
  | tooManyIndices
  | tooManyAxes
  | tooLarge
  | casting
  | notWritable
  deriving DecidableEq

inductive Failure where
  -- types
  | negativeLength (length : Int)
  | lengthNotInteger (value : Value)
  | notEnumerable
  | unknownElement (name : String)
  | notAName
  | dynamicLength
  | dynamicRank
  | axisOutOfRange (axis : Value) (rank : Nat)
  | dynamicShape (shape : Shape)
  | dynamicElement
  | immutableDimension
  | immutableShape
  -- values and arrays
  | notANumber
  | notAnInteger
  | notANumeral
  | notAText
  | notAKey
  | numberOverflow
  | numberTooLong
  | divisionByZero
  | outOfMemory
  | positionOutOfRange
  | array (fault : ArrayFault)
  -- operators
  | badAttributes
  | invalid (kind : String) (node : Option String) (violation : Violation)
  | parameterEvaluated
  -- kernels
  | missingKeys (keys : List String) (template : String)
  | invalidKey (key : String)
  | entryNotInteger (key : String) (value : Value)
  | entryNotText (key : String) (value : Value)
  | unknownKey
  | unknownDialect (name : String)
  | notADialect
  | planOutsideIndexed (plan : String)
  | noPrimitive (kind layout : Value)
  | noPlan (kind layout : Value)
  | notOperator (node expected kind : String)
  | notDot
  | rankMismatch
  -- the registry
  | unregistered (kind : String)
  | alreadyRegistered (kind : String)
  | noTranslator (kind : String) (dialect : Dialect)
  -- nodes, graphs and scopes
  | parameterWithInputs
  | inputUnresolved (input node : String)
  | outputsUnresolved (node : String)
  | alreadyResolved (node : String)
  | operandCount (got expected : Nat)
  | graphInputCount (got expected : Nat)
  | unboundInput (name : String)
  | duplicateNodes
  | seedOutside
  | inputsNotParameters
  | graphInputNotParameter (name kind : String)
  | duplicateNodeName (name : String)
  | graphUnavailable
  | noOpenScope
  -- descriptions and their files
  | isADirectory (name : String)
  | markup (fault : MarkupFault)
  | emptyItem
  | description (fault : DescriptionFault)

def negativeLengthText (length : Int) : String :=
  "dimension length must be non negative: " ++ toString length

def unknownElementText (name : String) : String :=
  "unknown element type: " ++ name

def unregisteredText (kind : String) : String :=
  "operator " ++ kind ++ " not registered in operator registry"

def quotedList (texts : List String) : String :=
  Text.bracketed (texts.map Text.quote)

namespace DescriptionFault

def message : DescriptionFault → String
  | notADescription account => "invalid graph description:\n" ++ account
  | duplicateName name => "duplicate node name: " ++ name
  | negativeDimension input length => "input " ++ input ++ ": " ++ negativeLengthText length
  | unknownElement input etype => "input " ++ input ++ ": " ++ unknownElementText etype
  | notInteger text => "expected integer, got: " ++ Text.quote text
  | unknownOperator node kind => "node " ++ node ++ ": " ++ unregisteredText kind
  | parameterNode node => "node " ++ node ++ ": parameters must be declared as inputs"
  | undefinedInputs node names => "node " ++ node ++ ": undefined inputs " ++ quotedList names
  | invalidAttributes node kind account =>
    "node " ++ node ++ ": invalid attributes for " ++ kind ++ ": " ++ account
  | undefinedOutputs names => "undefined outputs " ++ quotedList names

end DescriptionFault

namespace Failure

/-- Where a violation was found: the kind of the operator and the node, when there is one. -/
def place (kind : String) : Option String → String
  | none => kind
  | some node => kind ++ " (" ++ node ++ ")"

def message : Failure → Option String
  | negativeLength length => negativeLengthText length
  | lengthNotInteger value => "dimension length must be an int: " ++ value.quoted
  | unknownElement name => unknownElementText name
  | dynamicLength => "static length requested on dynamic dimension"
  | dynamicRank => "dimensions requested on dynamic rank shape"
  | axisOutOfRange axis rank =>
    "shape index out of range: " ++ axis.display ++ " for rank " ++ toString rank
  | dynamicShape shape => "static shape requested on dynamic shape: " ++ shape.text
  | dynamicElement => "numpy dtype requested on dynamic element type"
  | immutableDimension => "Dimension is immutable"
  | immutableShape => "PartialShape is immutable"
  | invalid kind node violation => place kind node ++ ": " ++ violation.message
  | parameterEvaluated => "parameters are bound by the caller, not evaluated"
  | missingKeys keys template =>
    "missing substitutions for template keys " ++ quotedList keys ++ ": " ++ Text.quote template
  | invalidKey key => "invalid template key: " ++ Text.quote key
  | entryNotInteger key value => "expected int for key " ++ key ++ ": " ++ value.quoted
  | entryNotText key value => "expected str for key " ++ key ++ ": " ++ value.quoted
  | unknownDialect name =>
    "unknown dialect: " ++ name ++ ", expected one of " ++ quotedList (Dialect.all.map Dialect.name)
  | planOutsideIndexed plan => "execution plan only applies to the indexed dialect: " ++ plan
  | noPrimitive kind layout =>
    "no backend primitive for " ++ kind.display ++ " with layout " ++ layout.quoted
  | noPlan kind layout =>
    "no execution plan for " ++ kind.display ++ " with layout " ++ layout.quoted
  | notOperator node expected kind => "node " ++ node ++ " is not a " ++ expected ++ ": " ++ kind
  | notDot => ""
  | unregistered kind => unregisteredText kind
  | alreadyRegistered kind => "operator " ++ kind ++ " is already registered"
  | noTranslator kind dialect =>
    "operator " ++ kind ++ " has no translator for the " ++ dialect.name ++ " dialect"
  | parameterWithInputs => "parameter nodes have no inputs"
  | inputUnresolved input node =>
    "input " ++ input ++ " of node " ++ node ++ " read before being resolved"
  | outputsUnresolved node => "outputs of node " ++ node ++ " read before being resolved"
  | alreadyResolved node => "node " ++ node ++ " already resolved"
  | operandCount got expected =>
    "len of inputs mismatch : " ++ toString got ++ " != " ++ toString expected
  | graphInputCount got expected =>
    "forward inputs size mismatch: " ++ toString got ++ " != " ++ toString expected
  | unboundInput name => "unbound graph input: " ++ name
  | duplicateNodes => "duplicate nodes"
  | seedOutside => "seed outside nodes"
  | inputsNotParameters => "graph inputs must be parameters"
  | graphInputNotParameter name kind =>
    "graph input " ++ name ++ " is not a parameter: " ++ kind
  | duplicateNodeName name => "non unique name for node: " ++ name
  | graphUnavailable => "can't get graph inside builder context"
  | noOpenScope => ""
  | isADirectory name => "[Errno 21] Is a directory: " ++ Text.quote name
  | markup fault => fault.message
  | description fault => fault.message
  | notEnumerable | notAName | notANumber | notAnInteger | notANumeral | notAText | notAKey
  | numberOverflow | numberTooLong | divisionByZero | outOfMemory | positionOutOfRange | array _
  | badAttributes | unknownKey | notADialect | rankMismatch | emptyItem => none

/-- Whether all numbers in the message can be written; the lengths of lists always can. -/
def isShort : Failure → Bool
  | negativeLength length => Text.isShort length
  | lengthNotInteger value => value.isShort
  | axisOutOfRange axis _ => axis.isShort
  | dynamicShape shape => shape.isShort
  | invalid _ _ violation => violation.isShort
  | entryNotInteger _ value | entryNotText _ value => value.isShort
  | noPrimitive kind layout | noPlan kind layout => kind.isShort && layout.isShort
  | _ => true

/-- Fails with a cause, once its message is written. -/
def raise {α : Type} (failure : Failure) : Except Failure α :=
  .error (if failure.isShort then failure else .numberTooLong)

theorem raise_eq_error {α : Type} {failure cause : Failure} :
    (failure.raise : Except Failure α) = .error cause ↔
      failure.isShort = true ∧ failure = cause ∨
        failure.isShort = false ∧ .numberTooLong = cause := by
  cases short : failure.isShort <;> simp [raise, short]

@[simp]
theorem raise_ne_ok {α : Type} (failure : Failure) (a : α) : failure.raise ≠ .ok a :=
  nofun

end Failure

end OpGraph
