/-!
# Cursors

A place in a text: what follows it, and its index, line and column. The end of the text reads
as the character with code zero, which no accepted text contains.
-/
namespace OpGraph.Markup

structure Cursor where
  rest : List Char
  index : Nat
  line : Nat
  column : Nat

def isLineBreak (c : Char) : Bool :=
  c == '\n' || c == '\r' || c == '\x85' || c == '\u2028' || c == '\u2029'

def isBlank (c : Char) : Bool :=
  c == ' ' || c == '\t'

/-- What ends a comment or the line of a block scalar: a line break, or the end of the text. -/
def endsLine (c : Char) : Bool :=
  isLineBreak c || c == '\x00'

/-- What must follow an indicator for it to be one. -/
def endsWord (c : Char) : Bool :=
  endsLine c || isBlank c

namespace Cursor

def start (text : List Char) : Cursor :=
  ⟨text, 0, 0, 0⟩

def peekAt (cursor : Cursor) (distance : Nat) : Char :=
  cursor.rest.getD distance '\x00'

def peek (cursor : Cursor) : Char :=
  cursor.peekAt 0

def isAtEnd (cursor : Cursor) : Bool :=
  cursor.rest.isEmpty

/-- Moves over one character. Lines are counted by line feeds and by carriage returns that no
line feed follows; the other line breaks take a column, and a byte order mark takes none. -/
def advance (cursor : Cursor) : Cursor :=
  match cursor.rest with
  | [] => cursor
  | c :: rest =>
    if c == '\n' || (c == '\r' && rest.head? != some '\n') then
      ⟨rest, cursor.index + 1, cursor.line + 1, 0⟩
    else
      ⟨rest, cursor.index + 1, cursor.line,
        if c == '\ufeff' then cursor.column else cursor.column + 1⟩

def forward (cursor : Cursor) : Nat → Cursor
  | 0 => cursor
  | count + 1 => cursor.advance.forward count

/-- Moves over the characters of a class. -/
def skip (cursor : Cursor) (inClass : Char → Bool) : Cursor :=
  cursor.forward (cursor.rest.takeWhile inClass).length

/-- Moves over the characters of a class as long as the column is below a limit. -/
def skipBelow (cursor : Cursor) (limit : Nat) (inClass : Char → Bool) : Cursor :=
  cursor.forward ((cursor.rest.takeWhile inClass).take (limit - cursor.column)).length

/-- Takes one line break; a carriage return and a line feed are one, and the break is read as
a line feed unless it is one of the two separators of Unicode. -/
def takeLineBreak (cursor : Cursor) : Cursor × List Char :=
  let c := cursor.peek
  if c == '\r' && cursor.peekAt 1 == '\n' then (cursor.forward 2, ['\n'])
  else if c == '\n' || c == '\r' || c == '\x85' then (cursor.advance, ['\n'])
  else if isLineBreak c then (cursor.advance, [c])
  else (cursor, [])

/-- Whether the next three characters are a document marker standing alone. -/
def isAtMarker (cursor : Cursor) : Bool :=
  let three := cursor.rest.take 3
  (three == ['-', '-', '-'] || three == ['.', '.', '.']) && endsWord (cursor.peekAt 3)

end Cursor

end OpGraph.Markup
