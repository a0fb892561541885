import OpGraph.Markup.Reading

/-!
# Markup nodes

The tree of scalars, sequences and mappings that a text is written as, each with its remarks.
Only block collections are accepted; flow collections, anchors and tags are refused where a
node is expected.
-/
namespace OpGraph.Markup

inductive Node where
  | scalar (text : String) (isPlain : Bool) (remarks : Option Remarks)
  | sequence (items : List Node) (remarks : Option Remarks)
  | mapping (column : Nat) (entries : List (Node × Node)) (remarks : Option Remarks)
  deriving Inhabited

namespace Node

def remarks : Node → Option Remarks
  | .scalar _ _ remarks | .sequence _ remarks | .mapping _ _ remarks => remarks

open OpGraph.Markup.Reading

/-- The node of a value that was left out. -/
def leftOut (remarks : Option Remarks) : Reading Node := do
  requireKnownVersion
  return .scalar "" true remarks

/-- The kinds before which the item of a sequence is left out. -/
def endsItem : TokenKind → Bool
  | .entry | .blockEnd => true
  | _ => false

/-- The kinds before which the item of a sequence without indentation is left out. -/
def endsIndentlessItem : TokenKind → Bool
  | .entry | .key | .value | .blockEnd => true
  | _ => false

/-- The kinds before which a key or a value is left out. -/
def endsEntry : TokenKind → Bool
  | .key | .value | .blockEnd => true
  | _ => false

/-- The remarks of a sequence with indentation: those before it, or else only what stands
after the colon before it. -/
def sequenceRemarks (start : Token) : Option Remarks :=
  match start.remarks with
  | none => none
  | some remarks =>
    if remarks.before.isSome then some remarks
    else remarks.after.map fun remark => .onlyAfter (some remark)

/-- The remarks of a collection, given those at its end. -/
def closedRemarks (remarks : Option Remarks) (atEnd : Option Remarks) : Option Remarks :=
  if (atEnd.bind (·.before)).any fun notes => !notes.isEmpty then
    some (remarks.getD (.onlyAfter none))
  else remarks

/-- Starts a sequence without indentation: it takes what stands after the colon before it. -/
def startIndentless : Reading (Option Remarks) := do
  match (← front).remarks with
  | some remarks =>
    match remarks.after with
    | some remark =>
      setRemarks (some { remarks with after := none })
      return some ⟨some remark, some [], none⟩
    | none => return none
  | none => return none

/-- Ends a sequence without indentation: it takes what stands before the next token. -/
def endIndentless (remarks : Option Remarks) : Reading (Option Remarks) := do
  let token ← front
  match token.remarks with
  | some next =>
    if next.before.any fun notes => !notes.isEmpty then
      setRemarks (some { next with before := none })
    return closedRemarks remarks token.remarks
  | none => return remarks

/-- The remarks of a value that was left out: those of its colon, or else what stands after
the token before which it was left out. -/
def leftOutRemarks (ofColon : Option Remarks) : Reading (Option Remarks) := do
  match ofColon with
  | some remarks => return some remarks
  | none =>
    match (← front).remarks with
    | some next =>
      setRemarks (some (.onlyBefore next.before))
      return some (.onlyAfter next.after)
    | none => return none

/-- Hands on the remarks of a colon, unless a key follows. -/
def passOnColon (remarks : Option Remarks) : Reading (Option Remarks) := do
  match (← front).kind with
  | .value => passOn remarks false
  | .key => return remarks
  | _ => passOn remarks true

mutual

/-- Reads a node. An indentless sequence may stand where `indentless` holds. -/
def read : Nat → Bool → Reading Node
  | 0, _ => throw .malformed
  | fuel + 1, indentless => do
    let token ← front
    match token.kind with
    | .anchor => throw .anchor
    | .tag => throw .tag
    | .flowStart => throw .flowCollection
    | .scalar text isPlain =>
      let token ← take
      if isPlain then requireKnownVersion
      return .scalar text isPlain token.remarks
    | .sequenceStart =>
      let _ ← take
      let (items, last) ← readItems fuel
      return .sequence items (closedRemarks (sequenceRemarks token) last)
    | .mappingStart column =>
      let _ ← take
      let (entries, last) ← readEntries fuel
      return .mapping column entries (closedRemarks token.remarks last)
    | .entry =>
      if indentless then
        let remarks ← startIndentless
        let items ← readIndentlessItems fuel
        return .sequence items (← endIndentless remarks)
      else throw .malformed
    | _ => throw .malformed

/-- Reads the items of a block sequence and its end, with the remarks of the end. -/
def readItems : Nat → Reading (List Node × Option Remarks)
  | 0 => throw .malformed
  | fuel + 1 => do
    match (← front).kind with
    | .entry =>
      let _ ← passOn (← take).remarks false
      let item ← if ← isAt endsItem then leftOut none else read fuel false
      let (items, last) ← readItems fuel
      return (item :: items, last)
    | .blockEnd => return ([], (← take).remarks)
    | _ => throw .malformed

/-- Reads the items of a sequence that has no indentation of its own. -/
def readIndentlessItems : Nat → Reading (List Node)
  | 0 => throw .malformed
  | fuel + 1 => do
    match (← front).kind with
    | .entry =>
      let _ ← passOn (← take).remarks false
      let item ← if ← isAt endsIndentlessItem then leftOut none else read fuel false
      return item :: (← readIndentlessItems fuel)
    | _ => return []

/-- Reads the entries of a mapping and its end, with the remarks that stay at the end. In old
versions every entry has a key. -/
def readEntries : Nat → Reading (List (Node × Node) × Option Remarks)
  | 0 => throw .malformed
  | fuel + 1 => do
    match (← front).kind with
    | .key =>
      let _ ← passOn (← take).remarks false
      let key ← if ← isAt endsEntry then leftOut none else read fuel true
      readValue fuel key
    | .value =>
      if (← get).version.isAfterOld then readValue fuel (← leftOut none) else throw .malformed
    | .blockEnd =>
      let left ← passOn (← take).remarks false
      return ([], left)
    | _ => throw .malformed

/-- Reads the value of a key and the entries after it. -/
def readValue : Nat → Node → Reading (List (Node × Node) × Option Remarks)
  | 0, _ => throw .malformed
  | fuel + 1, key => do
    let value ← match (← front).kind with
      | .value => do
        let remarks ← passOnColon (← take).remarks
        if ← isAt endsEntry then leftOut (← leftOutRemarks remarks) else read fuel true
      | _ => leftOut none
    let (entries, last) ← readEntries fuel
    return ((key, value) :: entries, last)

end

def isDirective : TokenKind → Bool
  | .directive _ => true
  | _ => false

/-- Takes the directives at the front: at most one gives the version, which must be of the
first kind, and no handle is given twice. -/
def takeDirectives : Nat → Bool → List (List Char) → Reading Unit
  | 0, _, _ => throw .malformed
  | fuel + 1, hasVersion, handles => do
    match (← front).kind with
    | .directive directive =>
      let _ ← take
      match directive with
      | .version version =>
        if hasVersion || version.major != 1 then throw .malformed
        takeDirectives fuel true handles
      | .handle name =>
        if handles.contains name then throw .malformed
        takeDirectives fuel hasVersion (name :: handles)
      | .other => takeDirectives fuel hasVersion handles
    | _ => return ()

/-- Takes the start of a document with the directives before it. -/
def takeDocumentStart (fuel : Nat) : Reading Unit := do
  takeDirectives fuel false []
  match (← front).kind with
  | .documentStart =>
    let _ ← take
    return ()
  | _ => throw .malformed

/-- The kinds before which a document that was started is empty. -/
def endsDocument : TokenKind → Bool
  | .directive _ | .documentStart | .documentEnd | .textEnd => true
  | _ => false

def skipDocumentEnds : Nat → Reading Unit
  | 0 => throw .malformed
  | fuel + 1 => do
    match (← front).kind with
    | .documentEnd =>
      let _ ← take
      skipDocumentEnds fuel
    | _ => return ()

/-- Requires that no further document follows. In old versions the end of a document may be
marked more than once. -/
def requireEnd (fuel : Nat) : Reading Unit := do
  if (← front).kind = .documentEnd then
    let _ ← take
  let isOld := (← get).isOld
  if isOld then skipDocumentEnds fuel
  match (← front).kind with
  | .textEnd => return ()
  | kind =>
    if isOld || isDirective kind || kind = .documentStart then takeDocumentStart fuel
    throw .malformed

/-- Reads the only document of a text, if it has one. -/
def readDocument (fuel : Nat) : Reading (Option Node) := do
  match (← front).kind with
  | .textEnd => return none
  | kind =>
    let node ←
      if isDirective kind || kind = .documentStart then do
        takeDocumentStart fuel
        if ← isAt endsDocument then leftOut none else read fuel false
      else read fuel false
    requireEnd fuel
    return some node

/-- Characters that a text may hold. -/
def isAccepted (c : Char) : Bool :=
  c == '\t' || c == '\n' || c == '\r' || (' ' ≤ c && c ≤ '~') || c == '\x85' ||
    ('\xa0' ≤ c && c.toNat != 0xfffe && c.toNat != 0xffff)

/-- The tree of a text; a text without a document has none. -/
def ofText (text : String) : Except MarkupFault (Option Node) := do
  let characters := text.toList
  if !characters.all isAccepted then throw .unprintable
  let (node, _) ← (readDocument (16 * characters.length + 16)).run (.start characters)
  return node

end Node

end OpGraph.Markup
