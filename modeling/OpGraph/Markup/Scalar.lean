import OpGraph.Markup.Tag

/-!
# Scalars

Reading plain, quoted and block scalars at a cursor. Lines of a scalar are folded: a single
line break becomes a space, further ones stay. Empty lines at the end of a plain or a block
scalar are a remark after it.
-/
namespace OpGraph.Markup

/-- The spaces and line breaks that follow a part of a plain scalar. -/
structure Gap where
  cursor : Cursor
  text : List Char
  crossesLine : Bool

/-- A line break followed by others: one alone is a space. -/
def foldBreaks (lineBreak breaks : List Char) : List Char :=
  if lineBreak != ['\n'] then lineBreak ++ breaks
  else if breaks.isEmpty then [' ']
  else breaks

/-- Takes line breaks and the spaces before and between them, up to a document marker; the
last component tells whether there is one. -/
def takeBreaks : Nat → Cursor → List Char → Cursor × List Char × Bool
  | 0, cursor, breaks => (cursor, breaks, false)
  | fuel + 1, cursor, breaks =>
    let cursor := cursor.skip (· == ' ')
    if isLineBreak cursor.peek then
      let (cursor, lineBreak) := cursor.takeLineBreak
      if cursor.isAtMarker then (cursor, [], true)
      else takeBreaks fuel cursor (breaks ++ lineBreak)
    else (cursor, breaks, false)

/-- The gap at the cursor; before a document marker nothing of it is kept. -/
def takeGap (cursor : Cursor) : Gap :=
  let spaces := cursor.rest.takeWhile (· == ' ')
  let cursor := cursor.forward spaces.length
  if isLineBreak cursor.peek then
    let (cursor, lineBreak) := cursor.takeLineBreak
    if cursor.isAtMarker then ⟨cursor, [], true⟩
    else
      let (cursor, breaks, atMarker) := takeBreaks cursor.rest.length cursor []
      ⟨cursor, if atMarker then [] else foldBreaks lineBreak breaks, true⟩
  else ⟨cursor, spaces, false⟩

/-- The length of the next part of a plain scalar: up to a blank, a colon before a blank, or
an indicator inside a flow collection. -/
def plainLength (inFlow questionEnds : Bool) : List Char → Nat
  | [] => 0
  | c :: rest =>
    let next := rest.headD '\x00'
    let stops :=
      if c == ':' && !endsWord next then false
      else if c == '?' then inFlow && questionEnds
      else endsWord c || c == ':' || (inFlow && [',', '[', ']', '\x7b', '\x7d'].contains c)
    if stops then 0 else plainLength inFlow questionEnds rest + 1

structure PlainScalar where
  cursor : Cursor
  text : List Char
  endLine : Nat
  crossesLine : Bool
  /-- The spaces and line breaks after the last part that are not part of the text. -/
  gap : List Char

/-- Reads the parts of a plain scalar; it ends where a line is indented less than `indent`. -/
def readPlainParts (inFlow questionEnds : Bool) (indent : Nat) : Nat → PlainScalar → PlainScalar
  | 0, scalar => scalar
  | fuel + 1, scalar =>
    let cursor := scalar.cursor
    let length := if cursor.peek == '#' then 0 else plainLength inFlow questionEnds cursor.rest
    if length == 0 then scalar
    else
      let next := cursor.forward length
      let gap := takeGap next
      let scalar : PlainScalar := ⟨gap.cursor, scalar.text ++ scalar.gap ++ cursor.rest.take length,
        next.line, gap.crossesLine, gap.text⟩
      if gap.text.isEmpty || gap.cursor.peek == '#' ||
          (!inFlow && gap.cursor.column < indent) then scalar
      else readPlainParts inFlow questionEnds indent fuel scalar

/-- Reads a plain scalar. In flow collections of old versions a question mark ends it. -/
def readPlain (inFlow questionEnds : Bool) (indent : Nat) (cursor : Cursor) : PlainScalar :=
  readPlainParts inFlow questionEnds indent (cursor.rest.length + 1)
    ⟨cursor, [], cursor.line, false, []⟩

/-- Empty lines after a plain scalar are a remark that is placed where the scalar starts. -/
def PlainScalar.remark? (scalar : PlainScalar) (start : Cursor) : Option Remark :=
  if scalar.gap.head? == some '\n' then some ⟨scalar.gap ++ ['\n'], start.line, start.column⟩
  else none

def escapes : List (Char × Char) :=
  [('0', '\x00'), ('a', '\x07'), ('b', '\x08'), ('t', '\t'), ('\t', '\t'), ('n', '\n'),
   ('v', '\x0b'), ('f', '\x0c'), ('r', '\r'), ('e', '\x1b'), (' ', ' '), ('"', '"'), ('/', '/'),
   ('\\', '\\'), ('N', '\x85'), ('_', '\xa0'), ('L', '\u2028'), ('P', '\u2029')]

/-- How many hexadecimal digits follow an escape by code. -/
def escapeWidths : List (Char × Nat) :=
  [('x', 2), ('u', 4), ('U', 8)]

def isHighSurrogate (code : Nat) : Bool :=
  0xd800 ≤ code && code < 0xdc00

def isLowSurrogate (code : Nat) : Bool :=
  0xdc00 ≤ code && code < 0xe000

def combineSurrogates (high low : Nat) : Nat :=
  0x10000 + (high - 0xd800) * 0x400 + (low - 0xdc00)

def ofCode (code : Nat) : Char :=
  if code.isValidChar then Char.ofNat code else '\ufffd'

/-- The characters of codes. Two surrogates that belong together are one character; one that
stands alone is no character, and the replacement character stands for it. -/
def ofCodes : List Nat → List Char
  | high :: low :: rest =>
    if isHighSurrogate high && isLowSurrogate low then
      ofCode (combineSurrogates high low) :: ofCodes rest
    else ofCode high :: ofCodes (low :: rest)
  | [code] => [ofCode code]
  | [] => []

/-- The code that an escape gives; from 2^31 on it is no number of a character at all. -/
def checkCode (code : Nat) : Except MarkupFault Nat :=
  if code < 0x110000 then .ok code
  else if code < 0x80000000 then .error .codeOutOfRange
  else .error .codeTooLarge

/-- Line breaks inside a quoted scalar with the blanks around them; a document marker at the
start of a line is not allowed. -/
def takeQuotedBreaks : Nat → Cursor → List Char → Except MarkupFault (Cursor × List Char)
  | 0, _, _ => .error .malformed
  | fuel + 1, cursor, breaks =>
    if cursor.isAtMarker then .error .malformed
    else
      let cursor := cursor.skip isBlank
      if isLineBreak cursor.peek then
        let (cursor, lineBreak) := cursor.takeLineBreak
        takeQuotedBreaks fuel cursor (breaks ++ lineBreak)
      else .ok (cursor, breaks)

/-- Blanks inside a quoted scalar: kept within a line, folded across lines. -/
def takeQuotedGap (cursor : Cursor) : Except MarkupFault (Cursor × List Char) :=
  let blanks := cursor.rest.takeWhile isBlank
  let cursor := cursor.forward blanks.length
  if isLineBreak cursor.peek then do
    let (cursor, lineBreak) := cursor.takeLineBreak
    let (cursor, breaks) ← takeQuotedBreaks (cursor.rest.length + 1) cursor []
    return (cursor, foldBreaks lineBreak breaks)
  else .ok (cursor, blanks)

/-- An escape sequence after its backslash, as codes. -/
def readEscape (cursor : Cursor) : Except MarkupFault (Cursor × List Nat) :=
  let c := cursor.peek
  match escapes.lookup c with
  | some meant => .ok (cursor.advance, [meant.toNat])
  | none =>
    match escapeWidths.lookup c with
    | some width =>
      let digits := (cursor.rest.drop 1).take width
      if digits.length < width then .error .malformed
      else match readHex? digits with
        | some code => do return (cursor.forward (width + 1), [← checkCode code])
        | none => .error .malformed
    | none =>
      if isLineBreak c then do
        let (cursor, _) := cursor.takeLineBreak
        let (cursor, breaks) ← takeQuotedBreaks (cursor.rest.length + 1) cursor []
        return (cursor, breaks.map Char.toNat)
      else .error .malformed

/-- Reads a quoted scalar after its opening mark, and the mark that closes it. -/
def readQuotedParts (mark : Char) :
    Nat → Cursor → List Nat → Except MarkupFault (Cursor × List Nat)
  | 0, _, _ => .error .malformed
  | fuel + 1, cursor, codes =>
    let c := cursor.peek
    if cursor.isAtEnd then .error .malformed
    else if c == mark then
      if mark == '\'' && cursor.peekAt 1 == '\'' then
        readQuotedParts mark fuel (cursor.forward 2) (codes ++ ['\''.toNat])
      else .ok (cursor.advance, codes)
    else if c == '\\' && mark == '"' then do
      let (cursor, meant) ← readEscape cursor.advance
      readQuotedParts mark fuel cursor (codes ++ meant)
    else if isBlank c || isLineBreak c then do
      let (cursor, gap) ← takeQuotedGap cursor
      readQuotedParts mark fuel cursor (codes ++ gap.map Char.toNat)
    else readQuotedParts mark fuel cursor.advance (codes ++ [c.toNat])

def readQuoted (cursor : Cursor) : Except MarkupFault (Cursor × List Char) := do
  let (next, codes) ← readQuotedParts cursor.peek (cursor.rest.length + 1) cursor.advance []
  return (next, ofCodes codes)

/-- What happens to the line breaks at the end of a block scalar. -/
inductive Chomping where
  | clip
  | strip
  | keep
  deriving DecidableEq

def chomping? (c : Char) : Option Chomping :=
  if c == '+' then some .keep else if c == '-' then some .strip else none

/-- An indentation given by a digit from one to nine. -/
def takeIncrement (cursor : Cursor) : Except MarkupFault (Cursor × Option Nat) :=
  let c := cursor.peek
  if !c.isDigit then .ok (cursor, none)
  else if c == '0' then .error .malformed
  else .ok (cursor.advance, some (c.toNat - '0'.toNat))

def takeChomping (cursor : Cursor) : Cursor × Option Chomping :=
  match chomping? cursor.peek with
  | some chomping => (cursor.advance, some chomping)
  | none => (cursor, none)

structure BlockHeader where
  chomping : Chomping
  increment : Option Nat
  /-- The comment of the header with the spaces before it. -/
  comment : Option (List Char)

/-- The header of a block scalar: chomping and indentation in either order, and a comment. -/
def readBlockHeader (cursor : Cursor) : Except MarkupFault (Cursor × BlockHeader) := do
  let (cursor, first) := takeChomping cursor
  let (cursor, increment) ← takeIncrement cursor
  let (cursor, second) :=
    if first.isNone && increment.isSome then takeChomping cursor else (cursor, none)
  if !endsPart cursor then throw .malformed
  let spaces := cursor.rest.takeWhile (· == ' ')
  let cursor := cursor.forward spaces.length
  let comment := if cursor.peek == '#' then cursor.rest.takeWhile fun c => !endsLine c else []
  let cursor := cursor.forward comment.length
  if endsLine cursor.peek then
    return (cursor.takeLineBreak.1, ⟨(first.or second).getD .clip, increment,
      if comment.isEmpty then none else some (spaces ++ comment)⟩)
  else throw .malformed

/-- A run of empty lines around the lines of a block scalar. -/
structure BlockBreaks where
  cursor : Cursor
  breaks : List Char
  /-- Where the last line break ends, or where the run starts if it has none. -/
  last : Cursor
  /-- The widest column that spaces reach. -/
  widest : Nat

/-- Empty lines before the first line of a block scalar, whatever their indentation. -/
def takeLeadingBreaks : Nat → BlockBreaks → BlockBreaks
  | 0, run => run
  | fuel + 1, run =>
    let cursor := run.cursor.skip (· == ' ')
    let widest := if run.cursor.peek == ' ' then max run.widest cursor.column else run.widest
    if isLineBreak cursor.peek then
      let (next, lineBreak) := cursor.takeLineBreak
      takeLeadingBreaks fuel ⟨next, run.breaks ++ lineBreak, next, widest⟩
    else { run with cursor := cursor, widest := widest }

/-- Empty lines between the lines of a block scalar. -/
def takeBlockBreaks (indent : Nat) : Nat → BlockBreaks → BlockBreaks
  | 0, run => run
  | fuel + 1, run =>
    let cursor := run.cursor.skipBelow indent (· == ' ')
    if isLineBreak cursor.peek then
      let (next, lineBreak) := cursor.takeLineBreak
      takeBlockBreaks indent fuel { run with
        cursor := next, breaks := run.breaks ++ lineBreak, last := next }
    else { run with cursor := cursor }

def BlockBreaks.start (cursor : Cursor) : BlockBreaks :=
  ⟨cursor, [], cursor, 0⟩

/-- The lines of a block scalar so far, the last line break and the empty lines after it. -/
structure BlockLines where
  text : List Char
  lastBreak : List Char
  following : BlockBreaks

/-- Reads the lines of a block scalar. In the folded form a break between two lines that do
not start with a blank is a space. -/
def readBlockLines (folded : Bool) (indent : Nat) (atTop : Bool) : Nat → BlockLines → BlockLines
  | 0, lines => lines
  | fuel + 1, lines =>
    let cursor := lines.following.cursor
    if cursor.column != indent || cursor.isAtEnd then lines
    else
      let startsBlank := isBlank cursor.peek
      let line := cursor.rest.takeWhile fun c => !endsLine c
      let text := lines.text ++ lines.following.breaks ++ line
      let (cursor, lineBreak) := (cursor.forward line.length).takeLineBreak
      let following := takeBlockBreaks indent cursor.rest.length (.start cursor)
      let cursor := following.cursor
      if (atTop && cursor.column == 0 && cursor.isAtMarker) || cursor.column != indent ||
          cursor.isAtEnd then
        ⟨text, lineBreak, following⟩
      else
        let joint :=
          if folded && lineBreak == ['\n'] && !startsBlank && !isBlank cursor.peek then
            if following.breaks.isEmpty then [' '] else []
          else lineBreak
        readBlockLines folded indent atTop fuel ⟨text ++ joint, lineBreak, following⟩

structure BlockScalar where
  cursor : Cursor
  text : List Char
  endLine : Nat
  comment : Option (List Char)
  remark : Option Remark

/-- Reads a block scalar after its indicator. `least` is the least indentation of its lines.
Empty lines that are not kept are a remark, together with the comments after them. -/
def readBlock (folded : Bool) (least : Nat) (cursor : Cursor) :
    Except MarkupFault BlockScalar := do
  let (cursor, header) ← readBlockHeader cursor
  let fuel := cursor.rest.length + 1
  let (leading, indent) :=
    match header.increment with
    | none =>
      let leading := takeLeadingBreaks fuel (.start cursor)
      (leading, max least leading.widest)
    | some increment =>
      let indent := max 1 least + increment - 1
      (takeBlockBreaks indent fuel (.start cursor), indent)
  let lines := readBlockLines folded indent (least == 0) fuel ⟨[], [], leading⟩
  let following := lines.following
  let last := following.last
  let text := match header.chomping with
    | .strip => lines.text
    | .clip => lines.text ++ lines.lastBreak
    | .keep => lines.text ++ lines.lastBreak ++ following.breaks
  if header.chomping = .keep || following.breaks.isEmpty then
    return ⟨following.cursor, text, last.line, header.comment, none⟩
  else
    let (next, remark) := takeRemarks fuel following.cursor following.breaks
    return ⟨next, text, last.line, header.comment, some ⟨remark, last.line, last.column⟩⟩

end OpGraph.Markup
