import OpGraph.Kernel.Template
import OpGraph.Text.Integer
import OpGraph.Types.Reading

/-!
# Substitutions

The values of template keys, in the order in which the keys were first set. The setters
format shapes, integers and texts; one that fails sets nothing.
-/
namespace OpGraph

/-- The integer that a value is read as: reals lose what follows the point, truth values
count as 0 and 1, and texts are read as integer literals. -/
def Value.toInt (value : Value) : Except Failure Int :=
  match value with
  | .text literal =>
    match Text.readInteger? literal with
    | some n => .ok n
    | .none => .error .notANumeral
  | value => do (← Number.ofValue value).truncate

def writeIntegers (values : List Int) : Except Failure String := do
  return Text.bracketed (← values.mapM writeInteger)

/-- The items of a value as a list of integers, each written as soon as it is read. -/
def vectorText (values : Value) : Except Failure String :=
  match values.items? with
  | some items => do
    return Text.bracketed (← items.mapM fun item => do writeInteger (← item.toInt))
  | none => .error .notEnumerable

structure Substitutions where
  entries : List (String × String)
  deriving DecidableEq, Inhabited

namespace Substitutions

def empty : Substitutions :=
  ⟨[]⟩

def get? (subs : Substitutions) (key : String) : Option String :=
  subs.entries.lookup key

def get (subs : Substitutions) (key : String) : Except Failure String :=
  match subs.get? key with
  | some value => .ok value
  | none => .error .unknownKey

def size (subs : Substitutions) : Nat :=
  subs.entries.length

/-- A key that is set already keeps its place. -/
def insert (key value : String) : List (String × String) → List (String × String)
  | [] => [(key, value)]
  | entry :: entries =>
    if entry.1 = key then (key, value) :: entries else entry :: insert key value entries

def set (subs : Substitutions) (key value : String) : Except Failure Substitutions :=
  if Template.isKey key.toList then .ok ⟨insert key value subs.entries⟩
  else .error (.invalidKey key)

def render (subs : Substitutions) (template : String) : Except Failure String :=
  Template.render template subs.get?

end Substitutions

/-- What a setter is given. -/
inductive Setting where
  | shape (shape : Shape)
  | ints (values : Value)
  | integer (value : Value)
  | text (value : Value)
  /-- A member of an enumeration, which is set to the text that it stands for. -/
  | member (value : Value)
  | template (template : Value)

namespace Setting

/-- Only a text is taken as it is. -/
def plainText (key : String) : Value → Except Failure String
  | .text value => .ok value
  | value => (Failure.entryNotText key value).raise

/-- The text of what a setter is given for a key, while the map stands as it does. -/
def write (key : String) (subs : Substitutions) : Setting → Except Failure String
  | .shape known => do writeIntegers ((← known.toLengths).map Int.ofNat)
  | .ints values => vectorText values
  | .integer (.int value) => writeInteger value
  | .integer value => (Failure.entryNotInteger key value).raise
  | .text value | .member value => plainText key value
  | .template (.text source) => subs.render source
  | .template _ => .error .badAttributes

end Setting

namespace Substitutions

def assign (subs : Substitutions) (key : String) (setting : Setting) :
    Except Failure Substitutions := do
  subs.set key (← setting.write key subs)

def setShape (subs : Substitutions) (key : String) (shape : Shape) :
    Except Failure Substitutions :=
  subs.assign key (.shape shape)

def setInts (subs : Substitutions) (key : String) (values : Value) :
    Except Failure Substitutions :=
  subs.assign key (.ints values)

def setInteger (subs : Substitutions) (key : String) (value : Value) :
    Except Failure Substitutions :=
  subs.assign key (.integer value)

def setText (subs : Substitutions) (key : String) (value : Value) :
    Except Failure Substitutions :=
  subs.assign key (.text value)

/-- Sets a key to a template rendered with the values set so far. -/
def setTemplate (subs : Substitutions) (key template : String) :
    Except Failure Substitutions :=
  subs.assign key (.template (.text template))

end Substitutions

end OpGraph
