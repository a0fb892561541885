import OpGraph.Markup.Remark

/-!
# Tokens

The pieces into which a text is cut, each with the line on which it ends and the remarks that
have been gathered for it.
-/
namespace OpGraph.Markup

/-- A version of the markup language. -/
structure Version where
  major : Nat
  minor : Nat
  deriving DecidableEq

namespace Version

def old : Version := ⟨1, 1⟩

/-- The version of a text that does not give one. -/
def standard : Version := ⟨1, 2⟩

/-- Whether words without quotes have a meaning in a version. -/
def isKnown (version : Version) : Bool :=
  version = old || version = standard

def isAfterOld (version : Version) : Bool :=
  1 < version.major || (version.major == 1 && 1 < version.minor)

end Version

inductive Directive where
  | version (version : Version)
  | handle (name : List Char)
  | other
  deriving DecidableEq

inductive TokenKind where
  | remark (remark : Remark)
  | directive (directive : Directive)
  | documentStart
  | documentEnd
  | textEnd
  | sequenceStart
  | mappingStart (column : Nat)
  | blockEnd
  | entry
  | key
  | value
  | flowStart
  | flowEnd
  | flowEntry
  | alias
  | anchor
  | tag
  | scalar (text : String) (isPlain : Bool)
  deriving DecidableEq

structure Token where
  kind : TokenKind
  endLine : Nat
  remarks : Option Remarks
  deriving DecidableEq

namespace Token

def remark? (token : Token) : Option Remark :=
  match token.kind with
  | .remark remark => some remark
  | _ => none

/-- Adds a remark that stands after the token, in place of an earlier one. -/
def remarkAfter (token : Token) (remark : Remark) : Token :=
  { token with remarks := some (match token.remarks with
    | some remarks => { remarks with after := some remark }
    | none => .onlyAfter (some remark)) }

/-- Adds notes that stand before the token; it must not have any. -/
def noteBefore? (token : Token) (notes : List Note) : Option Token :=
  match token.remarks with
  | none => some { token with remarks := some (.onlyBefore (some notes)) }
  | some remarks =>
    if remarks.before.isSome then none
    else some { token with remarks := some { remarks with before := some notes } }

end Token

end OpGraph.Markup
