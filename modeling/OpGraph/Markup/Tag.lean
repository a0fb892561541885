import OpGraph.Markup.Fault
import OpGraph.Markup.Token

/-!
# Tags and directives

The grammar of tags, of the handles that tags use, and of directives. A tag is an address
between angle brackets, a lone mark, or a handle with an address after it; addresses may hold
the codes of bytes, which must form characters.
-/
namespace OpGraph.Markup

/-- Whether a part of a tag or a directive may end at the cursor. -/
def endsPart (cursor : Cursor) : Bool :=
  cursor.isAtEnd || cursor.peek == ' ' || isLineBreak cursor.peek

def isHandleChar (c : Char) : Bool :=
  c.isAlphanum || c == '-' || c == '_'

def isAddressChar (version : Version) (c : Char) : Bool :=
  c.isAlphanum || "-;/?:@&=+$,_.!~*'()[]".toList.contains c || (c == '#' && version.isAfterOld)

def hexValue? (c : Char) : Option Nat :=
  if c.isDigit then some (c.toNat - '0'.toNat)
  else if 'a' ≤ c ∧ c ≤ 'f' then some (c.toNat - 'a'.toNat + 10)
  else if 'A' ≤ c ∧ c ≤ 'F' then some (c.toNat - 'A'.toNat + 10)
  else none

def readHex? (digits : List Char) : Option Nat :=
  digits.foldlM (fun value c => (hexValue? c).map (value * 16 + ·)) 0

/-- The bytes that a run of codes gives, each a percent sign and two digits. -/
def codedBytes : List Char → Option (List UInt8 × List Char)
  | '%' :: high :: low :: rest => do
    let byte ← readHex? [high, low]
    let (bytes, rest) ← codedBytes rest
    return (byte.toUInt8 :: bytes, rest)
  | '%' :: _ => none
  | rest => some ([], rest)

/-- What follows an address, which must not be empty. -/
def afterAddress (version : Version) : Nat → List Char → Option (List Char)
  | 0, _ => none
  | fuel + 1, text =>
    let rest := text.dropWhile (isAddressChar version)
    match rest with
    | '%' :: _ => do
      let (bytes, rest) ← codedBytes rest
      if !(ByteArray.mk bytes.toArray).validateUTF8 then none
      else if rest.head?.any fun c => isAddressChar version c then afterAddress version fuel rest
      else some rest
    | rest => if rest.length < text.length then some rest else none

def skipAddress (version : Version) (cursor : Cursor) : Except MarkupFault Cursor :=
  match afterAddress version (cursor.rest.length + 1) cursor.rest with
  | some rest => .ok (cursor.forward (cursor.rest.length - rest.length))
  | none => .error .malformed

/-- Takes a handle: a mark before a space, or a name between two marks, which may be empty. -/
def takeHandle (cursor : Cursor) : Except MarkupFault (Cursor × List Char) :=
  match cursor.rest with
  | '!' :: ' ' :: _ => .ok (cursor.advance, ['!'])
  | '!' :: rest =>
    let name := rest.takeWhile isHandleChar
    if (rest.drop name.length).head? == some '!' then
      .ok (cursor.forward (name.length + 2), '!' :: name ++ ['!'])
    else .error .malformed
  | _ => .error .malformed

/-- Moves over the tag at the cursor. -/
def skipTag (version : Version) (cursor : Cursor) : Except MarkupFault Cursor := do
  let next ←
    if cursor.peekAt 1 == '<' then do
      let next ← skipAddress version (cursor.forward 2)
      if next.peek == '>' then pure next.advance else throw .malformed
    else if endsWord (cursor.peekAt 1) then pure cursor.advance
    else
      let word := cursor.advance.rest.takeWhile fun c => c != ' ' && !isLineBreak c
      if word.contains '!' then do
        let (next, _) ← takeHandle cursor
        skipAddress version next
      else skipAddress version cursor.advance
  if endsPart next then return next else throw .malformed

/-- The longest number of a version directive, in digits. -/
def versionDigits : Nat := 4300

def takeVersionNumber (cursor : Cursor) : Except MarkupFault (Cursor × Nat) :=
  let digits := cursor.rest.takeWhile Char.isDigit
  if digits.isEmpty then .error .malformed
  else if versionDigits < digits.length then .error .versionTooLong
  else .ok (cursor.forward digits.length,
    digits.foldl (fun value c => value * 10 + (c.toNat - '0'.toNat)) 0)

def takeVersion (cursor : Cursor) : Except MarkupFault (Cursor × Version) := do
  let (cursor, major) ← takeVersionNumber (cursor.skip (· == ' '))
  if cursor.peek != '.' then throw .malformed
  let (cursor, minor) ← takeVersionNumber cursor.advance
  if endsPart cursor then return (cursor, ⟨major, minor⟩) else throw .malformed

/-- A handle and the address that it stands for. -/
def takeHandleAddress (version : Version) (cursor : Cursor) :
    Except MarkupFault (Cursor × List Char) := do
  let (cursor, name) ← takeHandle (cursor.skip (· == ' '))
  if cursor.peek != ' ' then throw .malformed
  let cursor ← skipAddress version (cursor.skip (· == ' '))
  if endsPart cursor then return (cursor, name) else throw .malformed

def isNameChar (c : Char) : Bool :=
  c.isAlphanum || c == '-' || c == '_' || c == ':' || c == '.'

/-- Moves over what is left of a line, which may only be a comment. -/
def skipRestOfLine (cursor : Cursor) : Except MarkupFault Cursor :=
  let cursor := cursor.skip (· == ' ')
  let cursor := if cursor.peek == '#' then cursor.skip fun c => !endsLine c else cursor
  if endsLine cursor.peek then .ok cursor.takeLineBreak.1 else .error .malformed

/-- Takes the directive at the cursor. A directive of an unknown name takes its whole line. -/
def takeDirective (version : Version) (cursor : Cursor) :
    Except MarkupFault (Cursor × Directive) := do
  let name := cursor.advance.rest.takeWhile isNameChar
  let cursor := cursor.forward (name.length + 1)
  if name.isEmpty || !endsPart cursor then throw .malformed
  if name == "YAML".toList then
    let (cursor, version) ← takeVersion cursor
    return (← skipRestOfLine cursor, .version version)
  else if name == "TAG".toList then
    let (cursor, name) ← takeHandleAddress version cursor
    return (← skipRestOfLine cursor, .handle name)
  else return (← skipRestOfLine (cursor.skip fun c => !endsLine c), .other)

end OpGraph.Markup
