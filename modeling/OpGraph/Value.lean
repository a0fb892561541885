import OpGraph.Number.Real64
import OpGraph.Text.Fields
import OpGraph.Text.Integer
import OpGraph.Text.Quoted

/-!
# Attribute values

The untyped values that operators are described with, before they are checked. `quoted` is
how a value stands inside another and in messages, `display` how it stands alone, which
differs for texts only.
-/
namespace OpGraph

inductive Value where
  | none
  | bool (flag : Bool)
  | int (value : Int)
  | real (value : Real64)
  | text (value : String)
  | list (items : List Value)
  | tuple (items : List Value)
  | record (fields : List (String × Value))
  deriving Inhabited

def truthText (flag : Bool) : String :=
  if flag then "True" else "False"

namespace Value

mutual

def quoted : Value → String
  | .none => "None"
  | .bool flag => truthText flag
  | .int value => toString value
  | .real value => value.text
  | .text value => Text.quote value
  | .list items => Text.bracketed (quotedItems items)
  | .tuple items => Text.parenthesized (quotedItems items)
  | .record fields => "\x7b" ++ Text.commaList (quotedFields fields) ++ "\x7d"

def quotedItems : List Value → List String
  | [] => []
  | item :: items => quoted item :: quotedItems items

def quotedFields : List (String × Value) → List String
  | [] => []
  | (key, value) :: fields => (Text.quote key ++ ": " ++ quoted value) :: quotedFields fields

end

def display : Value → String
  | .text value => value
  | value => value.quoted

mutual

/-- Whether all integers in a value can be written. -/
def isShort : Value → Bool
  | .int value => Text.isShort value
  | .list items => areShort items
  | .tuple items => areShort items
  | .record fields => areFieldsShort fields
  | _ => true

def areShort : List Value → Bool
  | [] => true
  | item :: items => isShort item && areShort items

def areFieldsShort : List (String × Value) → Bool
  | [] => true
  | field :: fields => isShort field.2 && areFieldsShort fields

end

/-- The items of a value that can be enumerated: those of a list, the characters of a text
and the keys of a record. -/
def items? : Value → Option (List Value)
  | .list items => some items
  | .tuple items => some items
  | .text value => some (value.toList.map fun c => .text (String.singleton c))
  | .record fields => some (fields.map fun field => .text field.1)
  | _ => Option.none

def isSequence : Value → Bool
  | .list _ => true
  | .tuple _ => true
  | _ => false

/-- Whether a table may have the value as a key, which it may not if it can change. -/
def isKey : Value → Bool
  | .list _ | .record _ => false
  | _ => true

def isText (value : Value) (text : String) : Bool :=
  match value with
  | .text other => other == text
  | _ => false

/-- What a value counts as where a truth value is needed: nothing, zeros and empty values are
false. -/
def isTruthy : Value → Bool
  | .none => false
  | .bool flag => flag
  | .int value => value != 0
  | .real value => !value.isZero
  | .text value => !value.isEmpty
  | .list items | .tuple items => !items.isEmpty
  | .record fields => !fields.isEmpty

end Value

end OpGraph
