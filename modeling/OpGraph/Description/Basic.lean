import OpGraph.Failure
import OpGraph.Markup.Content
import OpGraph.Operator.Class
import OpGraph.Text.CommaFields

/-!
# Graph descriptions

What the description of a graph lists: its inputs, its nodes and, if they are given, its
outputs. A description is read from the markup of a text, entry by entry; an entry that is
unknown, missing or of the wrong form makes the whole description invalid. Where a text is
expected a symbol is accepted too, and only its use as a text fails. The markup itself is read by
a `DescriptionReader`, of which nothing is assumed here.
-/
namespace OpGraph

open Markup (Content Key Word)

/-- What descriptions are read with. The accounts are the words in which it refuses something; they
stand in messages only. -/
class DescriptionReader where
  /-- The contents of a text, if it has any. -/
  contents : String → Except MarkupFault (Option Content)
  /-- What it says of a text that holds no description. -/
  account : String → String
  /-- What it says of attributes that an operator of a class cannot have. -/
  attributesAccount : OperatorClass → List (String × Value) → String

/-- Reads the markup of `Content.ofText` and gives no accounts. -/
@[reducible]
def DescriptionReader.plain : DescriptionReader where
  contents := Content.ofText
  account _ := ""
  attributesAccount _ _ := ""

structure InputDescription where
  name : Word
  shape : Word
  etype : Word
  deriving DecidableEq, Inhabited

structure NodeDescription where
  name : Word
  kind : Word
  inputs : List String
  attrs : List (String × Word)
  deriving DecidableEq, Inhabited

structure Description where
  name : Option Word
  inputs : List InputDescription
  nodes : List NodeDescription
  outputs : Option (List String)
  deriving DecidableEq, Inhabited

namespace Description

def misfit {α : Type} : Except Failure α :=
  .error (.markup .misfit)

def readWord : Content → Except Failure Word
  | .word word => .ok word
  | _ => misfit

/-- A word as a text, which a symbol is not. -/
def textOf : Word → Except Failure String
  | .text value => .ok value
  | .symbol _ => .error .notAText

def readFields (content : Content) : Except Failure (List String) := do
  match Text.commaFields? (← textOf (← readWord content)) with
  | some fields => return fields
  | none => throw .emptyItem

def readSequence : Content → Except Failure (List Content)
  | .sequence items => .ok items
  | .word (.symbol _) => .error (.markup .bareSymbol)
  | _ => misfit

/-- The entries of a mapping, all of whose keys must be texts. -/
def readMapping : Content → Except Failure (List (String × Content))
  | .mapping entries => entries.mapM fun
    | (.text key, content) => .ok (key, content)
    | (.sequence _, _) => .error (.markup .sequenceKey)
  | .word (.symbol _) => .error (.markup .bareSymbol)
  | _ => misfit

def readWordEntry (entry : String × Content) : Except Failure (String × Word) := do
  return (entry.1, ← readWord entry.2)

/-- What has been read of the fields of a mapping so far. -/
structure Fields where
  words : List (String × Word)
  fieldLists : List (String × List String)
  attrs : List (String × Word)
  deriving Inhabited

def Fields.empty : Fields :=
  ⟨[], [], []⟩

def Fields.required (fields : Fields) (name : String) : Except Failure Word :=
  match fields.words.lookup name with
  | some word => .ok word
  | none => misfit

def readInputEntry (fields : Fields) (entry : String × Content) : Except Failure Fields := do
  if ["name", "shape", "dtype"].contains entry.1 then
    return { fields with words := (← readWordEntry entry) :: fields.words }
  else misfit

def defaultElement : String :=
  "float32"

def readInput (content : Content) : Except Failure InputDescription := do
  let fields ← (← readMapping content).foldlM readInputEntry .empty
  return ⟨← fields.required "name", ← fields.required "shape",
    (fields.words.lookup "dtype").getD (.text defaultElement)⟩

def readNodeEntry (fields : Fields) (entry : String × Content) : Except Failure Fields := do
  if ["name", "op"].contains entry.1 then
    return { fields with words := (← readWordEntry entry) :: fields.words }
  else if entry.1 = "inputs" then
    return { fields with fieldLists := (entry.1, ← readFields entry.2) :: fields.fieldLists }
  else if entry.1 = "attrs" then
    return { fields with attrs := ← (← readMapping entry.2).mapM readWordEntry }
  else misfit

def readNode (content : Content) : Except Failure NodeDescription := do
  let fields ← (← readMapping content).foldlM readNodeEntry .empty
  match fields.fieldLists.lookup "inputs" with
  | some inputs =>
    return ⟨← fields.required "name", ← fields.required "op", inputs, fields.attrs⟩
  | none => misfit

/-- The sections of a description read so far. -/
structure Sections where
  name : Option Word
  inputs : Option (List InputDescription)
  nodes : Option (List NodeDescription)
  outputs : Option (List String)
  deriving Inhabited

def readSection (sections : Sections) (entry : String × Content) : Except Failure Sections := do
  match entry.1 with
  | "name" => return { sections with name := some (← readWord entry.2) }
  | "inputs" =>
    let inputs ← (← readSequence entry.2).mapM readInput
    return { sections with inputs := some inputs }
  | "nodes" =>
    let nodes ← (← readSequence entry.2).mapM readNode
    return { sections with nodes := some nodes }
  | "outputs" => return { sections with outputs := some (← readFields entry.2) }
  | _ => misfit

def ofMarkup (content : Content) : Except Failure Description := do
  let sections ← (← readMapping content).foldlM readSection ⟨none, none, none, none⟩
  match sections.inputs, sections.nodes with
  | some inputs, some nodes => return ⟨sections.name, inputs, nodes, sections.outputs⟩
  | _, _ => misfit

/-- The description that the contents of a text are; a lone word is none. -/
def ofContents : Option Content → Except Failure Description
  | none | some (.word _) => misfit
  | some content => ofMarkup content

/-- What does not have the form of a description is reported with an account of it. -/
def explain (account : String) : Failure → Failure
  | .markup .misfit => .description (.notADescription account)
  | failure => failure

/-- Reads the description that a text holds. -/
def ofText [DescriptionReader] (text : String) : Except Failure Description :=
  Except.mapError (explain (DescriptionReader.account text)) <|
    match DescriptionReader.contents text with
    | .error fault => .error (.markup fault)
    | .ok contents => ofContents contents

end Description

end OpGraph
