import OpGraph.Markup.Scalar

/-!
# The lexer

Cutting a text into tokens, on demand. Indentation opens and closes blocks. A word that may
turn out to be a key is remembered with its number among the tokens: when its colon is found, a
key token, and a mapping start if the key opens a mapping, is inserted at that place in the
queue. A word stays a candidate on its own line only, and for at most `keySpan` characters.
-/
namespace OpGraph.Markup

/-- A word that may be a key: its number among the tokens and its place in the text. A required
one must be a key. -/
structure KeyCandidate where
  number : Nat
  required : Bool
  index : Nat
  line : Nat
  column : Nat

def keySpan : Nat := 1024

/-- What has been read and what it leaves open. The queue holds the tokens that are not yet
taken. Block indentations are columns, -1 outside all blocks. `flows` lists the open flow
collections, true for sequences; key candidates are kept by their depth in flow collections. -/
structure Lexer where
  cursor : Cursor
  queue : List Token
  taken : Nat
  done : Bool
  indent : Int
  outerIndents : List Int
  keyAllowed : Bool
  candidates : List (Nat × KeyCandidate)
  flows : List Bool
  version : Version

namespace Lexer

def start (text : List Char) : Lexer :=
  ⟨.start text, [], 0, false, -1, [], true, [], [], .standard⟩

def depth (lexer : Lexer) : Nat :=
  lexer.flows.length

def inFlow (lexer : Lexer) : Bool :=
  !lexer.flows.isEmpty

def isOld (lexer : Lexer) : Bool :=
  lexer.version = .old

/-- Queues a token that ends on the line of the cursor. -/
def push (lexer : Lexer) (kind : TokenKind) : Lexer :=
  { lexer with queue := lexer.queue ++ [⟨kind, lexer.cursor.line, none⟩] }

/-- Queues a token that carries remarks. -/
def pushRemarked (lexer : Lexer) (kind : TokenKind) (endLine : Nat)
    (before : Option (List Note)) (after : Option Remark) : Lexer :=
  let remarks := if before.isNone && after.isNone then none else some ⟨after, before, none⟩
  { lexer with queue := lexer.queue ++ [⟨kind, endLine, remarks⟩] }

/-- Inserts a token at the place of a number among all tokens. -/
def insertAt (lexer : Lexer) (number : Nat) (kind : TokenKind) : Lexer :=
  { lexer with
    queue := lexer.queue.insertIdx (number - lexer.taken) ⟨kind, lexer.cursor.line, none⟩ }

def nextNumber (lexer : Lexer) : Nat :=
  lexer.taken + lexer.queue.length

def allowKey (lexer : Lexer) (allowed : Bool) : Lexer :=
  { lexer with keyAllowed := allowed }

def moveTo (lexer : Lexer) (cursor : Cursor) : Lexer :=
  { lexer with cursor := cursor }

def isStale (cursor : Cursor) (candidate : KeyCandidate) : Bool :=
  candidate.line != cursor.line || keySpan < cursor.index - candidate.index

/-- Forgets candidates that can no longer become keys; a required one must not be lost. -/
def dropStale (lexer : Lexer) : Except MarkupFault Lexer :=
  let (stale, live) := lexer.candidates.partition fun entry => isStale lexer.cursor entry.2
  if stale.any fun entry => entry.2.required then .error .malformed
  else .ok { lexer with candidates := live }

def forgetCandidate (lexer : Lexer) : Lexer :=
  { lexer with candidates := lexer.candidates.filter fun entry => entry.1 != lexer.depth }

/-- Forgets the candidate of the current depth, which must not be required. -/
def dropCandidate (lexer : Lexer) : Except MarkupFault Lexer :=
  match lexer.candidates.lookup lexer.depth with
  | some candidate => if candidate.required then .error .malformed else .ok lexer.forgetCandidate
  | none => .ok lexer

/-- Makes the next token a candidate, if a key may stand here. -/
def saveCandidate (lexer : Lexer) : Except MarkupFault Lexer := do
  if lexer.keyAllowed then
    let required := !lexer.inFlow && lexer.indent == (lexer.cursor.column : Int)
    let candidate : KeyCandidate :=
      ⟨lexer.nextNumber, required, lexer.cursor.index, lexer.cursor.line, lexer.cursor.column⟩
    let lexer ← lexer.dropCandidate
    return { lexer with candidates := (lexer.depth, candidate) :: lexer.candidates }
  else return lexer

/-- The blocks that are indented more than a column, closed one after the other: their number
and the indentations that stay. -/
def unwindTo (column : Int) (indent : Int) : List Int → Nat × Int × List Int
  | outer :: outers =>
    if column < indent then
      let (closed, rest) := unwindTo column outer outers
      (closed + 1, rest)
    else (0, indent, outer :: outers)
  | [] => (0, indent, [])

def unwind (lexer : Lexer) (column : Int) : Lexer :=
  if lexer.inFlow then lexer
  else
    let (closed, indent, outers) := unwindTo column lexer.indent lexer.outerIndents
    let blockEnd : Token := ⟨.blockEnd, lexer.cursor.line, none⟩
    { lexer with
      indent := indent
      outerIndents := outers
      queue := lexer.queue ++ List.replicate closed blockEnd }

/-- Opens a block at a column that lies deeper than the current one, with a start token at a
place among the tokens. -/
def openBlock (lexer : Lexer) (column : Nat) (start : TokenKind) (number : Nat) : Lexer :=
  if !lexer.inFlow && lexer.indent < column then
    { lexer.insertAt number start with
      indent := column
      outerIndents := lexer.indent :: lexer.outerIndents }
  else lexer

/-- Takes an indicator of one character. -/
def takeIndicator (lexer : Lexer) (kind : TokenKind) : Lexer :=
  (lexer.push kind).moveTo lexer.cursor.advance

def takeEnd (lexer : Lexer) : Except MarkupFault Lexer := do
  let lexer ← (lexer.unwind (-1)).dropCandidate
  return { (lexer.push .textEnd).allowKey false with candidates := [], done := true }

def takeMarker (lexer : Lexer) (kind : TokenKind) : Except MarkupFault Lexer := do
  let lexer ← (lexer.unwind (-1)).dropCandidate
  return ((lexer.allowKey false).push kind).moveTo (lexer.cursor.forward 3)

/-- Takes a directive. A version counts from here on. -/
def takeDirective (lexer : Lexer) : Except MarkupFault Lexer := do
  let lexer ← (lexer.unwind (-1)).dropCandidate
  let (cursor, directive) ← Markup.takeDirective lexer.version lexer.cursor
  let version := match directive with
    | .version version => version
    | _ => lexer.version
  return { ((lexer.allowKey false).push (.directive directive)).moveTo cursor with
    version := version }

def takeFlowStart (lexer : Lexer) (isSequence : Bool) : Except MarkupFault Lexer := do
  let lexer ← lexer.saveCandidate
  return { (lexer.takeIndicator .flowStart).allowKey true with flows := isSequence :: lexer.flows }

def takeFlowEnd (lexer : Lexer) : Except MarkupFault Lexer := do
  let lexer ← lexer.dropCandidate
  return { (lexer.takeIndicator .flowEnd).allowKey false with flows := lexer.flows.drop 1 }

def takeFlowEntry (lexer : Lexer) : Except MarkupFault Lexer := do
  let lexer ← (lexer.allowKey true).dropCandidate
  return lexer.takeIndicator .flowEntry

def takeEntry (lexer : Lexer) : Except MarkupFault Lexer := do
  if !lexer.inFlow && !lexer.keyAllowed then throw .malformed
  let lexer := lexer.openBlock lexer.cursor.column .sequenceStart lexer.nextNumber
  let lexer ← (lexer.allowKey true).dropCandidate
  return lexer.takeIndicator .entry

/-- Takes an indicator of a mapping that no candidate belongs to. -/
def takeMappingMark (lexer : Lexer) (kind : TokenKind) : Except MarkupFault Lexer := do
  if !lexer.inFlow && !lexer.keyAllowed then throw .malformed
  let column := lexer.cursor.column
  let lexer := lexer.openBlock column (.mappingStart column) lexer.nextNumber
  let lexer ← (lexer.allowKey !lexer.inFlow).dropCandidate
  return lexer.takeIndicator kind

/-- The colon after a candidate makes it a key; a colon without one belongs to a key that was
marked as such or is empty. -/
def takeValue (lexer : Lexer) : Except MarkupFault Lexer :=
  match lexer.candidates.lookup lexer.depth with
  | some candidate =>
    let lexer := lexer.forgetCandidate.insertAt candidate.number .key
    let lexer := lexer.openBlock candidate.column (.mappingStart candidate.column)
      candidate.number
    .ok ((lexer.allowKey false).takeIndicator .value)
  | none => lexer.takeMappingMark .value

/-- Characters of the names of anchors. -/
def isAnchorChar (c : Char) : Bool :=
  (('!' ≤ c && c ≤ '~') || ('\xa0' ≤ c && c != '\ufeff')) &&
    !(",[]\x7b\x7d".toList.contains c)

def endsAnchor (cursor : Cursor) : Bool :=
  cursor.isAtEnd || isLineBreak cursor.peek ||
    " \t?:,[]%@\x60\x7b\x7d".toList.contains cursor.peek

def takeAnchor (lexer : Lexer) (kind : TokenKind) : Except MarkupFault Lexer := do
  let lexer ← lexer.saveCandidate
  let name := lexer.cursor.advance.rest.takeWhile isAnchorChar
  let cursor := lexer.cursor.forward (name.length + 1)
  if name.isEmpty || !endsAnchor cursor then throw .malformed
  return ((lexer.allowKey false).push kind).moveTo cursor

def takeTag (lexer : Lexer) : Except MarkupFault Lexer := do
  let lexer ← lexer.saveCandidate
  let cursor ← skipTag lexer.version lexer.cursor
  return ((lexer.allowKey false).push .tag).moveTo cursor

def takeBlockScalar (lexer : Lexer) (folded : Bool) : Except MarkupFault Lexer := do
  let lexer ← (lexer.allowKey true).dropCandidate
  let scalar ← readBlock folded (lexer.indent + 1).toNat lexer.cursor.advance
  return (lexer.pushRemarked (.scalar (String.ofList scalar.text) false) scalar.endLine
    (scalar.comment.map fun text => [.header text]) scalar.remark).moveTo scalar.cursor

def takeQuoted (lexer : Lexer) : Except MarkupFault Lexer := do
  let lexer ← lexer.saveCandidate
  let (cursor, text) ← readQuoted lexer.cursor
  return ((lexer.allowKey false).moveTo cursor).push (.scalar (String.ofList text) false)

def takePlain (lexer : Lexer) : Except MarkupFault Lexer := do
  let lexer ← lexer.saveCandidate
  let scalar := readPlain lexer.inFlow lexer.isOld (lexer.indent + 1).toNat lexer.cursor
  return ((lexer.allowKey scalar.crossesLine).pushRemarked
    (.scalar (String.ofList scalar.text) true) scalar.endLine none
    (scalar.remark? lexer.cursor)).moveTo scalar.cursor

/-- Whether a colon at the cursor separates a key from its value. -/
def isValueMark (lexer : Lexer) : Bool :=
  let followed := endsWord (lexer.cursor.peekAt 1)
  match lexer.flows with
  | [] => followed
  | true :: _ => followed || lexer.isOld
  | false :: _ =>
    followed || lexer.isOld || lexer.queue.getLast?.map (·.kind) != some .value

def indicators : List Char :=
  "-?:,[]#&*!|>'\"%@\x60\x7b\x7d".toList

/-- Whether a plain scalar may start at the cursor. -/
def startsPlain (lexer : Lexer) : Bool :=
  let c := lexer.cursor.peek
  let followed := endsWord (lexer.cursor.peekAt 1)
  (!endsWord c && !indicators.contains c) ||
    (c == '-' && !followed) ||
    ((c == '?' || c == ':') && !lexer.inFlow && !followed) ||
    (c == ':' && lexer.inFlow && !lexer.isOld && !isBlank (lexer.cursor.peekAt 1))

/-- Takes the tokens that start at the cursor, which stands at a token or at the end. -/
def takeToken (lexer : Lexer) : Except MarkupFault Lexer :=
  let cursor := lexer.cursor
  let c := cursor.peek
  let atMarker := cursor.column == 0 && cursor.isAtMarker
  let followed := endsWord (cursor.peekAt 1)
  if cursor.isAtEnd then lexer.takeEnd
  else if c == '%' && cursor.column == 0 then lexer.takeDirective
  else if c == '-' && atMarker then lexer.takeMarker .documentStart
  else if c == '.' && atMarker then lexer.takeMarker .documentEnd
  else if c == '[' then lexer.takeFlowStart true
  else if c == '\x7b' then lexer.takeFlowStart false
  else if c == ']' || c == '\x7d' then lexer.takeFlowEnd
  else if c == ',' then lexer.takeFlowEntry
  else if c == '-' && followed then lexer.takeEntry
  else if c == '?' && (lexer.inFlow || followed) then lexer.takeMappingMark .key
  else if c == ':' && lexer.isValueMark then lexer.takeValue
  else if c == '*' then lexer.takeAnchor .alias
  else if c == '&' then lexer.takeAnchor .anchor
  else if c == '!' then lexer.takeTag
  else if c == '|' && !lexer.inFlow then lexer.takeBlockScalar false
  else if c == '>' && !lexer.inFlow then lexer.takeBlockScalar true
  else if c == '\'' || c == '"' then lexer.takeQuoted
  else if lexer.startsPlain then lexer.takePlain
  else .error .malformed

def skipMark (lexer : Lexer) : Lexer :=
  if lexer.cursor.index == 0 && lexer.cursor.peek == '\ufeff' then
    lexer.moveTo lexer.cursor.advance
  else lexer

/-- Queues what comes next: a remark, or the tokens that start at the next token. Outside flow
collections a new line may start with a key. -/
def fetch (lexer : Lexer) : Except MarkupFault Lexer := do
  let lexer := lexer.skipMark
  let next := approach lexer.cursor
  let lexer := (lexer.moveTo next.cursor).allowKey
    (lexer.keyAllowed || (next.crossesLine && !lexer.inFlow))
  match next.remark with
  | some remark => return lexer.push (.remark remark.trimSpaces)
  | none =>
    let lexer ← lexer.dropStale
    (lexer.unwind lexer.cursor.column).takeToken

/-- Whether the front of the queue is still open: nothing is queued, or the front may turn out
to be a key. -/
def frontIsOpen (lexer : Lexer) : Bool :=
  !lexer.done && (lexer.queue.isEmpty ||
    (lexer.candidates.map (·.2.number)).min? == some lexer.taken)

/-- Takes the front remark off the queue, if the front is one. -/
def popRemark? (lexer : Lexer) : Option (Remark × Lexer) :=
  match lexer.queue with
  | token :: rest =>
    token.remark?.map fun remark => (remark, { lexer with queue := rest, taken := lexer.taken + 1 })
  | [] => none

/-- Drops stale candidates where they could keep the front open. -/
def refresh (lexer : Lexer) : Except MarkupFault Lexer :=
  if lexer.done || lexer.queue.isEmpty then .ok lexer else lexer.dropStale

/-- Fetches until the front of the queue is certain. Remarks at the front are set aside. -/
def certainFront : Nat → Lexer → List Remark → Except MarkupFault (Lexer × List Remark)
  | 0, lexer, aside => .ok (lexer, aside)
  | fuel + 1, lexer, aside => do
    let lexer ← lexer.refresh
    if lexer.frontIsOpen then
      certainFront fuel (← lexer.fetch) aside
    else match lexer.popRemark? with
      | some (remark, lexer) => certainFront fuel lexer (aside ++ [remark])
      | none => return (lexer, aside)

def frontFuel (lexer : Lexer) : Nat :=
  2 * lexer.cursor.rest.length + lexer.queue.length + 4

/-- Hands remarks to the front of the queue as what stands before it. -/
def noteFront (lexer : Lexer) (remarks : List Remark) : Except MarkupFault Lexer :=
  match lexer.queue with
  | token :: rest =>
    if remarks.isEmpty then .ok lexer
    else match token.noteBefore? (remarks.map .remark) with
      | some token => .ok { lexer with queue := token :: rest }
      | none => .error .remarkedTwice
  | [] => .ok lexer

/-- Brings a token to the front of the queue, with the remarks before it, and a further one
behind it. -/
def settle (lexer : Lexer) : Except MarkupFault Lexer := do
  let lexer ← lexer.refresh
  let lexer ←
    if lexer.frontIsOpen || lexer.popRemark?.isSome then do
      let (lexer, aside) ← certainFront lexer.frontFuel lexer []
      lexer.noteFront aside
    else pure lexer
  if !lexer.done && lexer.queue.length < 2 then lexer.fetch else return lexer

/-- Takes the remarks behind the front token off the queue and appends them to a remark. -/
def takeFollowing : Nat → Lexer → Token → Remark → Except MarkupFault (Lexer × Remark)
  | 0, lexer, _, remark => .ok (lexer, remark)
  | fuel + 1, lexer, front, remark => do
    let lexer ← lexer.fetch
    match lexer.queue with
    | _ :: second :: rest =>
      match second.remark? with
      | some next =>
        takeFollowing fuel { lexer with queue := front :: rest, taken := lexer.taken + 1 } front
          (remark.append next)
      | none => return (lexer, remark)
    | _ => return (lexer, remark)

/-- The remark behind a token as one that stands after the token: behind a colon or a scalar
on the same line, or, behind a scalar, on a later line. -/
def remarkBehind? (token : Token) (remark : Remark) : Option Remark :=
  match token.kind with
  | .value | .flowEnd => if token.endLine = remark.line then some remark else none
  | .scalar _ _ =>
    if token.endLine = remark.line then some remark
    else some { remark with
      text := List.replicate (remark.line - token.endLine) '\n' ++ Remark.indent remark.column ++
        remark.text }
  | _ => none

/-- Takes the front token with the remarks that stand after it. -/
def take (lexer : Lexer) : Except MarkupFault (Token × Lexer) := do
  let lexer ← lexer.settle
  match lexer.queue with
  | [] => throw .malformed
  | token :: rest =>
    let remark := match rest with
      | second :: _ => second.remark?.bind (remarkBehind? token)
      | [] => none
    match remark with
    | none => return (token, { lexer with queue := rest, taken := lexer.taken + 1 })
    | some remark =>
      let waiting := { lexer with queue := token :: rest.drop 1, taken := lexer.taken + 1 }
      let (lexer, remark) ← takeFollowing lexer.frontFuel waiting token remark
      return (token.remarkAfter remark,
        { lexer with queue := lexer.queue.drop 1, taken := lexer.taken + 1 })

end Lexer

end OpGraph.Markup
