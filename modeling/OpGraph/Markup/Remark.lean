import OpGraph.Markup.Cursor
import OpGraph.Text.Fields
import OpGraph.Text.Quoted

/-!
# Remarks

Comments, and the empty lines between the parts of a text. They carry no content, but each is
kept with the token it stands by, and a token can hold only one set of them. A remark on the
line of a token stands after it, any other before the token that follows.
-/
namespace OpGraph.Markup

/-- A comment or a run of empty lines, with the place where it starts. -/
structure Remark where
  text : List Char
  line : Nat
  column : Nat
  deriving DecidableEq

/-- What stands before a token: a remark, or the comment in the header of a block scalar. -/
inductive Note where
  | remark (remark : Remark)
  | header (text : List Char)
  deriving DecidableEq

/-- The remarks of a token. What was handed on from the colon of a key also keeps a copy of
what stood after that colon. -/
structure Remarks where
  after : Option Remark
  before : Option (List Note)
  colonCopy : Option (Option Remark)
  deriving DecidableEq

namespace Remark

def indent (width : Nat) : List Char :=
  List.replicate width ' '

/-- A remark with the next one appended at its own column. -/
def append (remark next : Remark) : Remark :=
  { remark with text := remark.text ++ indent next.column ++ next.text }

def trimSpaces (remark : Remark) : Remark :=
  { remark with text := (remark.text.reverse.dropWhile (· == ' ')).reverse }

def listing (remark : Remark) : String :=
  "CommentToken(" ++ Text.quote (String.ofList remark.text) ++ ", line: " ++
    toString remark.line ++ ", col: " ++ toString remark.column ++ ")"

def listingOrNone : Option Remark → String
  | some remark => remark.listing
  | none => "None"

end Remark

def Note.listing : Note → String
  | .remark noted => noted.listing
  | .header text => Text.quote (String.ofList text)

namespace Remarks

def onlyAfter (remark : Option Remark) : Remarks :=
  ⟨remark, none, none⟩

def onlyBefore (notes : Option (List Note)) : Remarks :=
  ⟨none, notes, none⟩

/-- The remarks as a list: after, before and, where there is one, the copy. -/
def listing (remarks : Remarks) : String :=
  let before := match remarks.before with
    | some notes => Text.bracketed (notes.map Note.listing)
    | none => "None"
  let copy := match remarks.colonCopy with
    | some remark => ["None", "None", Remark.listingOrNone remark]
    | none => []
  Text.bracketed (Remark.listingOrNone remarks.after :: before :: copy)

def overlap (given present : Remarks) : Bool :=
  (given.after.isSome && present.after.isSome) || (given.before.isSome && present.before.isSome)

/-- The remarks present with those that are given in addition. -/
def merge (given present : Remarks) : Remarks :=
  { present with
    after := given.after.or present.after
    before := given.before.or present.before }

/-- The remarks handed on from a colon. -/
def copied (remarks : Remarks) : Remarks :=
  { remarks with colonCopy := some remarks.after }

end Remarks

/-- Takes a run of line breaks, and of blanks if they are wanted. -/
def takeRun (withBlanks : Bool) : Nat → Cursor → List Char → Cursor × List Char
  | 0, cursor, text => (cursor, text)
  | fuel + 1, cursor, text =>
    if isLineBreak cursor.peek then
      let (cursor, lineBreak) := cursor.takeLineBreak
      takeRun withBlanks fuel cursor (text ++ lineBreak)
    else if withBlanks && isBlank cursor.peek then
      takeRun withBlanks fuel cursor.advance (text ++ [cursor.peek])
    else (cursor, text)

/-- Takes the comment at the cursor with the line breaks after it. The end of the text ends
its line. -/
def takeComment (cursor : Cursor) : Cursor × Remark :=
  let body := cursor.rest.takeWhile fun c => !endsLine c
  let next := cursor.forward body.length
  let closing := if next.isAtEnd then '\n' else next.peek
  let (next, breaks) := takeRun false next.rest.length next.advance []
  (next, ⟨body ++ [closing] ++ breaks, cursor.line, cursor.column⟩)

/-- Takes the empty lines at the cursor. The blanks before a comment do not belong to them. -/
def takeEmptyLines (cursor : Cursor) : Cursor × Remark :=
  let (next, run) := takeRun true cursor.rest.length cursor []
  let text := if next.peek == '#' then (run.reverse.dropWhile (· != '\n')).reverse else run
  (next, ⟨text, cursor.line, cursor.column⟩)

/-- Where the next token or the rest after a remark starts. -/
structure Approach where
  cursor : Cursor
  crossesLine : Bool
  remark : Option Remark

/-- Moves over spaces and line breaks to the next token, or over the first remark before it. -/
def approachFrom : Nat → Cursor → Bool → Approach
  | 0, cursor, crossed => ⟨cursor, crossed, none⟩
  | fuel + 1, cursor, crossed =>
    let cursor := cursor.skip (· == ' ')
    if cursor.peek == '#' then
      let (next, remark) := takeComment cursor
      ⟨next, true, some remark⟩
    else if isLineBreak cursor.peek then
      let cursor := cursor.takeLineBreak.1
      if cursor.peek == '\n' then
        let (next, remark) := takeEmptyLines cursor
        ⟨next, true, some remark⟩
      else approachFrom fuel cursor true
    else ⟨cursor, crossed, none⟩

def approach (cursor : Cursor) : Approach :=
  approachFrom (cursor.rest.length + 1) cursor false

/-- Takes all remarks before the next token, each at its own column. -/
def takeRemarks : Nat → Cursor → List Char → Cursor × List Char
  | 0, cursor, text => (cursor, text)
  | fuel + 1, cursor, text =>
    match approach cursor with
    | ⟨next, _, some remark⟩ =>
      takeRemarks fuel next (text ++ Remark.indent remark.column ++ remark.text)
    | ⟨next, _, none⟩ => (next, text)

end OpGraph.Markup
