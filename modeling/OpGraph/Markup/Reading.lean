import OpGraph.Markup.Lexer

/-!
# Reading tokens

A reading looks at the front token, takes it, and hands remarks from a token that was taken to
the one that is now at the front.
-/
namespace OpGraph.Markup

abbrev Reading := StateT Lexer (Except MarkupFault)

namespace Reading

def front : Reading Token := do
  let lexer ← (← get).settle
  set lexer
  match lexer.queue with
  | token :: _ => return token
  | [] => throw .malformed

/-- Whether the front token is of one of some kinds. -/
def isAt (accepts : TokenKind → Bool) : Reading Bool := do
  return accepts (← front).kind

def take : Reading Token := do
  let (token, lexer) ← (← get).take
  set lexer
  return token

def setRemarks (remarks : Option Remarks) : Reading Unit :=
  modify fun lexer => { lexer with queue := lexer.queue.modifyHead ({ · with remarks := remarks }) }

/-- Whether a token never gets the remarks of another one. -/
def refusesRemarks : TokenKind → Bool
  | .textEnd | .documentStart => true
  | _ => false

/-- Hands remarks to the front token and gives what is left of them. From a colon to a token
without remarks a copy goes with them. -/
def passOn (remarks : Option Remarks) (fromColon : Bool) : Reading (Option Remarks) := do
  let token ← front
  match remarks with
  | none => return none
  | some given =>
    if refusesRemarks token.kind then return some given
    match token.remarks with
    | none =>
      setRemarks (some (if fromColon then given.copied else given))
      return none
    | some present =>
      if given.overlap present then throw (.remarksOverlap given present)
      setRemarks (some (given.merge present))
      return none

/-- The version that is in force must be known when a word without quotes is read. -/
def requireKnownVersion : Reading Unit := do
  if !(← get).version.isKnown then throw .unknownVersion

end Reading

end OpGraph.Markup
