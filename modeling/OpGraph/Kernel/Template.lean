import OpGraph.Failure

/-!
# Templates

A template is a text with placeholders: a key between two `@` characters, where a key is an
ASCII identifier. Placeholders are found from left to right and do not overlap. Rendering
replaces all of them in one pass, so a placeholder that a value brings in stays as it is and
can be replaced by a later pass.
-/
namespace OpGraph.Template

/-- Starts a key. -/
def isKeyStart (c : Char) : Bool :=
  c.isAlpha || c == '_'

/-- Continues a key. -/
def isKeyChar (c : Char) : Bool :=
  c.isAlphanum || c == '_'

def isKey : List Char → Bool
  | [] => false
  | c :: cs => isKeyStart c && cs.all isKeyChar

inductive Piece where
  | char (c : Char)
  | key (name : List Char)
  deriving DecidableEq

/-- The rest of a key up to its closing `@`, and the text after it. -/
def readKeyRest : List Char → Option (List Char × List Char)
  | [] => none
  | c :: cs =>
    if c = '@' then some ([], cs)
    else if isKeyChar c then (readKeyRest cs).map fun (name, rest) => (c :: name, rest)
    else none

/-- A key with its closing `@` at the start of a text, and the text after it. -/
def readKey? : List Char → Option (List Char × List Char)
  | [] => none
  | c :: cs =>
    if isKeyStart c then (readKeyRest cs).map fun (name, rest) => (c :: name, rest) else none

theorem length_of_readKeyRest (text : List Char) (found : List Char × List Char)
    (read : readKeyRest text = some found) : text.length = found.1.length + found.2.length + 1 := by
  induction text generalizing found with
  | nil => simp [readKeyRest] at read
  | cons c cs ih =>
    simp only [readKeyRest] at read
    split at read
    · simp only [Option.some.injEq] at read
      subst read
      simp
    · split at read
      · obtain ⟨inner, readInner, rfl⟩ := Option.map_eq_some_iff.mp read
        have := ih inner readInner
        simp only [List.length_cons]
        omega
      · simp at read

theorem readKey?_shorter (text : List Char) (found : List Char × List Char)
    (read : readKey? text = some found) : found.2.length < text.length := by
  cases text with
  | nil => simp [readKey?] at read
  | cons c cs =>
    simp only [readKey?] at read
    split at read
    · obtain ⟨inner, readInner, rfl⟩ := Option.map_eq_some_iff.mp read
      have := length_of_readKeyRest cs inner readInner
      simp only [List.length_cons]
      omega
    · simp at read

/-- Splits a text into its placeholders and the characters between them. -/
def scan (text : List Char) : List Piece :=
  match text with
  | [] => []
  | c :: cs =>
    if c = '@' then
      match _found : readKey? cs with
      | some (name, rest) => .key name :: scan rest
      | none => .char c :: scan cs
    else .char c :: scan cs
termination_by text.length
decreasing_by
  · have shorter := readKey?_shorter cs _ _found
    simp only [List.length_cons] at *
    omega
  · simp
  · simp

def keyOf? : Piece → Option String
  | .char _ => none
  | .key name => some (String.ofList name)

/-- The keys of a template, each once, in the order of their first placeholders. -/
def keys (text : String) : List String :=
  ((scan text.toList).filterMap keyOf?).eraseDups

/-- The text of a piece once the values of keys are known. -/
def expand (value? : String → Option String) : Piece → List Char
  | .char c => [c]
  | .key name => ((value? (String.ofList name)).getD "").toList

/-- Replaces every placeholder; all keys must have a value. -/
def render (text : String) (value? : String → Option String) : Except Failure String :=
  match (keys text).filter fun key => (value? key).isNone with
  | [] => .ok (String.ofList ((scan text.toList).flatMap (expand value?)))
  | missing => .error (.missingKeys missing text)

/-- Renders a text with the first map, the result with the next, and so on up to the first
failure. -/
def renderPasses (text : String) : List (List (String × String)) → List (Except Failure String)
  | [] => []
  | map :: maps =>
    match render text fun key => map.lookup key with
    | .ok result => .ok result :: renderPasses result maps
    | .error failure => [.error failure]

end OpGraph.Template
