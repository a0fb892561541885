import OpGraph.Proofs.Writing
import OpGraph.Proofs.Reading.Parsing

/-!
# Calls of primitives

Reads the text of a kernel of the direct dialect: the inputs with their shapes, and the output
with its shape as the call of a primitive on the inputs and on lists of integers. A call runs
only on inputs of the declared shapes and to an output of the declared shape. The primitives
read their inputs strictly, so a call that runs has read inside of its inputs only.
-/
namespace OpGraph

namespace Reading

/-- An argument is an input or a named list of integers. -/
inductive Argument where
  | input (name : String)
  | integers (key : String) (values : List Int)
  deriving DecidableEq

structure Call where
  inputs : List (String × List Int)
  shape : List Int
  primitive : String
  arguments : List Argument
  deriving DecidableEq

/-! ### Reading -/

def readInteger? : List Token → Option Int
  | [.word digits] => (natural? digits).map Int.ofNat
  | [.mark '-', .word digits] => (natural? digits).map fun n => -(n : Int)
  | _ => none

/-- Integers with commas between them; no tokens are no integers. -/
def readItems? (ts : List Token) : Option (List Int) :=
  if ts = [] then some [] else (commaPieces ts).mapM readInteger?

/-- Integers in brackets at the beginning, and what follows them. -/
def readIntegers? : List Token → Option (List Int × List Token)
  | .mark '[' :: ts => do
    let (inside, rest) ← cut ']' ts
    return (← readItems? inside, rest)
  | _ => none

def readInput? : List Token → Option (String × List Int)
  | .word "input" :: .mark '(' :: .mark '"' :: .word name :: .mark '"' :: .mark ',' :: ts => do
    let (shape, [.mark ')']) ← readIntegers? ts | none
    return (name, shape)
  | _ => none

def readArgument? : List Token → Option Argument
  | [.word "args", .mark '(', .mark '"', .word name, .mark '"', .mark ')'] => some (.input name)
  | .word key :: .mark '=' :: ts => do
    let (values, []) ← readIntegers? ts | none
    return .integers key values
  | _ => none

/-- The pieces between the commas outside of all brackets, up to the bracket that closes them,
and what follows it; `piece` holds the piece begun, its last token first. -/
def splitArguments (depth : Nat) (piece : List Token) :
    List Token → Option (List (List Token) × List Token)
  | [] => none
  | t :: ts =>
    if t = .mark '(' ∨ t = .mark '[' then splitArguments (depth + 1) (t :: piece) ts
    else if t = .mark ')' ∨ t = .mark ']' then
      match depth with
      | 0 => some ([piece.reverse], ts)
      | depth + 1 => splitArguments depth (t :: piece) ts
    else if t = .mark ',' ∧ depth = 0 then
      (splitArguments 0 [] ts).map fun (pieces, rest) => (piece.reverse :: pieces, rest)
    else splitArguments depth (t :: piece) ts

def Token.text : Token → String
  | word text => text
  | mark symbol => symbol.toString

/-- The shape of the output, the primitive and its arguments. -/
def readOutput? : List Token → Option (List Int × String × List Argument)
  | .word "output" :: .mark '(' :: ts => do
    let (shape, .mark ',' :: .word "topi" :: .mark '=' :: ts) ← readIntegers? ts | none
    let (name, ts) ← cut '(' ts
    let (arguments, [.mark ')']) ← splitArguments 0 [] ts | none
    return (shape, String.join (name.map Token.text), ← arguments.mapM readArgument?)
  | _ => none

/-- A call starts with a dash; the inputs and the output end with semicolons. -/
def readCall? (text : String) : Option Call := do
  let .mark '-' :: ts := tokens text | none
  let [] :: output :: inputs := (ts.splitOn (.mark ';')).reverse | none
  let (shape, primitive, arguments) ← readOutput? output
  return ⟨← inputs.reverse.mapM readInput?, shape, primitive, arguments⟩

/-! ### Primitives -/

/-- The number of places of a window along a padded axis. -/
def windowPlaces? (extent kernel : Nat) (stride dilation : Int) : Option Nat :=
  if stride = 0 then none
  else ((extent - ((kernel : Int) - 1) * dilation - 1).fdiv stride + 1).toNat?

/-- Convolution with channels first. Strides and dilations are given height first, paddings
width first: before both axes and then after them. -/
def conv2dChannelsFirst? (data filters : Tensor) (stride padding dilation : List Int) :
    Option Tensor := do
  let [strideHeight, strideWidth] := stride | none
  let [dilationHeight, dilationWidth] := dilation | none
  let [left, top, right, bottom] ← padding.mapM Int.toNat? | none
  let padded := Tensor.ofElements data.etype
    (data.elements.pad [(0, 0), (0, 0), (top, bottom), (left, right)] 0)
  let [batch, channels, height, width] := padded.shape | none
  let [features, _, kernelHeight, kernelWidth] := filters.shape | none
  let rows ← windowPlaces? height kernelHeight strideHeight dilationHeight
  let columns ← windowPlaces? width kernelWidth strideWidth dilationWidth
  let elements ← NDArray.tabulate? [batch, features, rows, columns] fun index => do
    let [n, f, y, x] := index | none
    let sum ← sum? channels fun c => sum? kernelHeight fun row => sum? kernelWidth fun column => do
      let element ← elementAt? padded
        [n, c, y * strideHeight + row * dilationHeight, x * strideWidth + column * dilationWidth]
      return element * (← elementAt? filters [f, c, row, column])
    return data.etype.reduce sum
  return Tensor.ofElements data.etype elements

/-- Convolution with channels last: the arrays are brought into the other layout first. -/
def conv2dChannelsLast? (data filters : Tensor) (stride padding dilation : List Int) :
    Option Tensor := do
  if data.shape.length ≠ 4 ∨ filters.shape.length ≠ 4 then none
  else
    let result ← conv2dChannelsFirst? (data.transpose [0, 3, 1, 2])
      (filters.transpose [3, 2, 0, 1]) stride padding dilation
    return result.transpose [0, 2, 3, 1]

/-- The product of two matrices, in the element type that holds those of both. -/
def matmul? (a b : Tensor) : Option Tensor := do
  let [rows, inner] := a.shape | none
  let [inner', columns] := b.shape | none
  if inner ≠ inner' then none
  else
    let etype := a.etype.promote b.etype
    let elements ← NDArray.tabulate? [rows, columns] fun index => do
      let [row, column] := index | none
      let sum ← sum? inner fun k => do
        return (← elementAt? a [row, k]) * (← elementAt? b [k, column])
      return etype.reduce sum
    return Tensor.ofElements etype elements

/-- The coordinates that a slice takes along each axis. Every axis has a lower bound, an upper
bound and a stride other than zero. -/
def progressions? : List Nat → List Int → List Int → List Int → Option (List Progression)
  | [], [], [], [] => some []
  | extent :: extents, lower :: lowers, upper :: uppers, stride :: strides => do
    if stride = 0 then none
    else
      let others ← progressions? extents lowers uppers strides
      return .ofBounds ⟨lower, upper, stride⟩ extent :: others
  | _, _, _, _ => none

def stridedSlice? (data : Tensor) (lower upper strides : List Int) : Option Tensor := do
  let selected ← progressions? data.shape lower upper strides
  let elements ← NDArray.tabulate? (selected.map Progression.count) fun index =>
    elementAt? data (List.zipWith (fun p (k : Nat) => p.start + k * p.step) selected index)
  return Tensor.ofElements data.etype elements

def runPrimitive? (name : String) (tensors : List Tensor) (keys : List (String × List Int)) :
    Option Tensor := do
  match name, tensors with
  | "topi.nn.conv2d_nchw", [data, filters] =>
    conv2dChannelsFirst? data filters (← keys.lookup "stride") (← keys.lookup "padding")
      (← keys.lookup "dilation")
  | "topi.nn.conv2d_nhwc", [data, filters] =>
    conv2dChannelsLast? data filters (← keys.lookup "stride") (← keys.lookup "padding")
      (← keys.lookup "dilation")
  | "topi.nn.matmul", [a, b] => matmul? a b
  | "topi.strided_slice", [data] =>
    stridedSlice? data (← keys.lookup "begin") (← keys.lookup "end") (← keys.lookup "strides")
  | _, _ => none

namespace Argument

def input? : Argument → Option String
  | input name => some name
  | integers _ _ => none

def integers? : Argument → Option (String × List Int)
  | input _ => none
  | integers key values => some (key, values)

end Argument

/-- Whether the inputs have the declared shapes. -/
def Call.declares (call : Call) (inputs : Inputs) : Bool :=
  call.inputs.all fun (name, shape) =>
    (inputs.lookup name).any fun tensor => tensor.shape.map Int.ofNat = shape

def Call.run? (call : Call) (inputs : Inputs) : Option Tensor := do
  if call.declares inputs then
    let tensors ← (call.arguments.filterMap Argument.input?).mapM fun name => inputs.lookup name
    let result ← runPrimitive? call.primitive tensors
      (call.arguments.filterMap Argument.integers?)
    if result.shape.map Int.ofNat = call.shape then some result else none
  else none

/-! ### Lists of integers -/

theorem tokens_toString (n : Int) :
    tokens (toString n) =
      if n < 0 then [.mark '-', .word (Nat.repr n.natAbs)] else [.word (Nat.repr n.natAbs)] := by
  cases n with
  | ofNat n =>
    have positive : ¬Int.ofNat n < 0 := Int.not_lt.mpr (Int.natCast_nonneg n)
    rw [if_neg positive]
    exact tokens_repr n
  | negSucc n =>
    have text : toString (Int.negSucc n) = "-" ++ Nat.repr (n + 1) := rfl
    rw [if_pos (Int.negSucc_lt_zero n), text, tokens_append "-" _ (Or.inl (by decide)), tokens_repr]
    rfl

/-- The only mark in an integer is its sign. -/
private theorem mark_not_mem_toString (symbol : Char) (foreign : symbol ≠ '-') (n : Int) :
    .mark symbol ∉ tokens (toString n) := by
  rw [tokens_toString]
  split <;> simp [foreign]

theorem isItem_toString (n : Int) : IsItem readInteger? (tokens (toString n)) n := by
  refine ⟨?_, mark_not_mem_toString ',' (by decide) n, mark_not_mem_toString ']' (by decide) n⟩
  rw [tokens_toString]
  split
  next negative =>
    have value : -(n.natAbs : Int) = n := by omega
    rw [readInteger?, natural?_repr]
    exact congrArg some value
  next positive =>
    have value : (n.natAbs : Int) = n := by omega
    rw [readInteger?, natural?_repr]
    exact congrArg some value

/-- What stands between the brackets. -/
private def integerTokens (values : List Int) : List Token :=
  [.mark ','].intercalate (values.map fun n => tokens (toString n))

private theorem tokens_integerList (values : List Int) :
    tokens (integerList values) = .mark '[' :: integerTokens values ++ [.mark ']'] := by
  rw [integerList, tokens_bracketed, List.map_map]
  rfl

private theorem mark_not_mem_integerTokens (symbol : Char) (foreign : symbol ≠ '-')
    (separated : symbol ≠ ',') (values : List Int) : .mark symbol ∉ integerTokens values := by
  intro member
  rcases mem_intercalate _ _ _ member with same | ⟨item, among, inside⟩
  · exact separated (Token.mark.inj same)
  · obtain ⟨n, -, rfl⟩ := List.mem_map.mp among
    exact mark_not_mem_toString symbol foreign n inside

private theorem noSemicolon_integerList (values : List Int) :
    .mark ';' ∉ tokens (integerList values) := by
  rw [tokens_integerList]
  simp [mark_not_mem_integerTokens ';' (by decide) (by decide) values]

/-- A list of integers is read back, whatever follows it. -/
theorem readIntegers?_integerList (values : List Int) (rest : List Token) :
    readIntegers? (tokens (integerList values) ++ rest) = some (values, rest) := by
  have inside := cut_append ']' (integerTokens values) rest
    (mark_not_mem_integerTokens ']' (by decide) (by decide) values)
  have read : readItems? (integerTokens values) = some values := by
    cases values with
    | nil => rfl
    | cons n values =>
      have items : List.Forall₂ (IsItem readInteger?)
          ((n :: values).map fun n => tokens (toString n)) (n :: values) := by
        rw [List.forall₂_map_left_iff, List.forall₂_same]
        exact fun n _ => isItem_toString n
      have pieces : (commaPieces (integerTokens (n :: values))).mapM readInteger? =
          some (n :: values) := mapM_commaPieces items (by simp)
      -- No tokens are read as no integers, so a list that is not empty must have some.
      have nonempty : integerTokens (n :: values) ≠ [] := by
        intro empty
        rw [empty] at pieces
        simp [commaPieces, readInteger?] at pieces
      rw [readItems?, if_neg nonempty, pieces]
  rw [tokens_integerList]
  simp [readIntegers?, inside, read]

/-! ### The text of a call -/

def inputText (input : String × List Int) : String :=
  "input(\"" ++ input.1 ++ "\", " ++ integerList input.2 ++ ")"

def Argument.text : Argument → String
  | input name => "args(\"" ++ name ++ "\")"
  | integers key values => key ++ "=" ++ integerList values

namespace Call

def outputText (call : Call) : String :=
  "output(" ++ integerList call.shape ++ ", topi=" ++ call.primitive ++ "(" ++
    Text.commaList (call.arguments.map Argument.text) ++ "))"

/-- Inputs and output end with semicolons. -/
def text (call : Call) : String :=
  " - " ++ "; ".intercalate (call.inputs.map inputText ++ [call.outputText, ""])

theorem text_ne_empty (call : Call) : call.text ≠ "" := by
  simp [text]

end Call

private def inputTokens (input : String × List Int) : List Token :=
  .word "input" :: .mark '(' :: .mark '"' :: .word input.1 :: .mark '"' :: .mark ',' ::
    (tokens (integerList input.2) ++ [.mark ')'])

private theorem tokens_inputText (input : String × List Int)
    (plain : tokens input.1 = [.word input.1]) : tokens (inputText input) = inputTokens input := by
  rw [inputText, tokens_append _ ")" (Or.inr (by decide)),
    tokens_around "\", " (by decide) (by decide) (by decide),
    tokens_append "input(\"" _ (Or.inl (by decide)), plain,
    show tokens "input(\"" = [.word "input", .mark '(', .mark '"'] by decide,
    show tokens "\", " = [.mark '"', .mark ','] by decide, show tokens ")" = [.mark ')'] by decide]
  simp [inputTokens]

theorem readInput?_inputTokens (input : String × List Int) :
    readInput? (inputTokens input) = some input := by
  simp [readInput?, inputTokens, readIntegers?_integerList]

namespace Argument

/-- The names in an argument are words. -/
def IsPlain : Argument → Prop
  | input name => tokens name = [.word name]
  | integers key _ => tokens key = [.word key]

private def tokens : Argument → List Token
  | input name => [.word "args", .mark '(', .mark '"', .word name, .mark '"', .mark ')']
  | integers key values => .word key :: .mark '=' :: Reading.tokens (integerList values)

private theorem tokens_text (argument : Argument) (plain : argument.IsPlain) :
    Reading.tokens argument.text = argument.tokens := by
  cases argument with
  | input name =>
    rw [text, tokens_append _ "\")" (Or.inr (by decide)),
      tokens_append "args(\"" _ (Or.inl (by decide)), show Reading.tokens name = _ from plain]
    rfl
  | integers key values =>
    rw [text, tokens_around "=" (by decide) (by decide) (by decide),
      show Reading.tokens key = _ from plain]
    rfl

private theorem read_tokens (argument : Argument) :
    readArgument? argument.tokens = some argument := by
  cases argument with
  | input name => rfl
  | integers key values =>
    have list := readIntegers?_integerList values []
    rw [List.append_nil] at list
    simp [readArgument?, tokens, list]

end Argument

/-! ### Splitting arguments -/

/-- Tokens with closed brackets and no comma outside of them. -/
def IsClosed (ts : List Token) : Prop :=
  ∀ depth piece rest,
    splitArguments depth piece (ts ++ rest) = splitArguments depth (ts.reverse ++ piece) rest

theorem IsClosed.append {ts us : List Token} (first : IsClosed ts) (second : IsClosed us) :
    IsClosed (ts ++ us) := by
  intro depth piece rest
  rw [List.append_assoc, first, second, List.reverse_append, List.append_assoc]

theorem isClosed_of_plain (ts : List Token)
    (plain : ∀ symbol ∈ ['(', ')', '[', ']', ','], Token.mark symbol ∉ ts) : IsClosed ts := by
  intro depth piece rest
  induction ts generalizing piece with
  | nil => rfl
  | cons t ts ih =>
    have later := ih (fun symbol member inside => plain symbol member (by simp [inside]))
      (t :: piece)
    have other (symbol : Char) (member : symbol ∈ ['(', ')', '[', ']', ',']) :
        t ≠ .mark symbol := fun same => plain symbol member (by simp [same])
    simpa [splitArguments, other] using later

/-- Within brackets a comma is no boundary. -/
private theorem splitArguments_within (depth : Nat) (piece ts rest : List Token)
    (plain : ∀ symbol ∈ ['(', ')', '[', ']'], Token.mark symbol ∉ ts) :
    splitArguments (depth + 1) piece (ts ++ rest) =
      splitArguments (depth + 1) (ts.reverse ++ piece) rest := by
  induction ts generalizing piece with
  | nil => rfl
  | cons t ts ih =>
    have later := ih (t :: piece) fun symbol member inside =>
      plain symbol member (by simp [inside])
    have other (symbol : Char) (member : symbol ∈ ['(', ')', '[', ']']) : t ≠ .mark symbol :=
      fun same => plain symbol member (by simp [same])
    simpa [splitArguments, other] using later

private theorem isClosed_integerList (values : List Int) :
    IsClosed (tokens (integerList values)) := by
  intro depth piece rest
  have within := splitArguments_within depth (.mark '[' :: piece) (integerTokens values)
    (.mark ']' :: rest) (by
      intro symbol member
      refine mark_not_mem_integerTokens symbol ?_ ?_ values <;> rintro rfl <;> simp at member)
  rw [tokens_integerList]
  simpa [splitArguments] using within

private theorem Argument.isClosed_tokens (argument : Argument) : IsClosed argument.tokens := by
  cases argument with
  | input name =>
    intro depth piece rest
    simp [splitArguments, tokens]
  | integers key values =>
    have assigned : IsClosed [.word key, .mark '='] := isClosed_of_plain _ (by simp)
    exact assigned.append (isClosed_integerList values)

private theorem splitArguments_intercalate (items : List (List Token)) (rest : List Token)
    (closed : ∀ item ∈ items, IsClosed item) (nonempty : items ≠ []) :
    splitArguments 0 [] ([.mark ','].intercalate items ++ .mark ')' :: rest) =
      some (items, rest) := by
  induction items with
  | nil => exact absurd rfl nonempty
  | cons item items ih =>
    have first := closed item (by simp)
    cases items with
    | nil =>
      have passed := first 0 [] (.mark ')' :: rest)
      simpa [splitArguments] using passed
    | cons next items =>
      have later := ih (fun other member => closed other (by simp [member])) (by simp)
      rw [List.intercalate_cons_cons, List.append_assoc, List.append_assoc, first 0 []]
      simpa [splitArguments] using later

/-! ### Reading a call back -/

namespace Call

/-- The names in a call are words, and it has arguments. -/
structure IsPlain (call : Call) : Prop where
  inputs : ∀ input ∈ call.inputs, tokens input.1 = [.word input.1]
  arguments : ∀ argument ∈ call.arguments, argument.IsPlain
  nonempty : call.arguments ≠ []
  primitive : String.join ((tokens call.primitive).map Token.text) = call.primitive
  noBracket : .mark '(' ∉ tokens call.primitive
  noSemicolon : .mark ';' ∉ tokens call.primitive

private def outputTokens (call : Call) : List Token :=
  .word "output" :: .mark '(' :: (tokens (integerList call.shape) ++
    .mark ',' :: .word "topi" :: .mark '=' :: (tokens call.primitive ++ .mark '(' ::
      ([.mark ','].intercalate (call.arguments.map Argument.tokens) ++
        [.mark ')', .mark ')'])))

variable {call : Call} (plain : call.IsPlain)

include plain

private theorem tokens_outputText : tokens call.outputText = call.outputTokens := by
  have arguments : (call.arguments.map Argument.text).map tokens =
      call.arguments.map Argument.tokens := by
    rw [List.map_map, List.map_inj_left]
    exact fun argument member => argument.tokens_text (plain.arguments argument member)
  rw [outputText, tokens_append _ "))" (Or.inr (by decide)),
    tokens_around "(" (by decide) (by decide) (by decide),
    tokens_around ", topi=" (by decide) (by decide) (by decide),
    tokens_append "output(" _ (Or.inl (by decide)), tokens_commaList, arguments,
    show tokens "output(" = [.word "output", .mark '('] by decide,
    show tokens ", topi=" = [.mark ',', .word "topi", .mark '='] by decide,
    show tokens "(" = [.mark '('] by decide, show tokens "))" = [.mark ')', .mark ')'] by decide]
  simp [outputTokens]

private theorem readOutput?_outputTokens :
    readOutput? call.outputTokens = some (call.shape, call.primitive, call.arguments) := by
  have name := cut_append '(' (tokens call.primitive)
    ([.mark ','].intercalate (call.arguments.map Argument.tokens) ++ [.mark ')', .mark ')'])
    plain.noBracket
  have pieces := splitArguments_intercalate (call.arguments.map Argument.tokens) [.mark ')']
    (by
      intro item member
      obtain ⟨argument, -, rfl⟩ := List.mem_map.mp member
      exact argument.isClosed_tokens)
    (by simpa using plain.nonempty)
  have read : (call.arguments.map Argument.tokens).mapM readArgument? = some call.arguments := by
    rw [Outcome.mapM_eq_some_iff, List.forall₂_map_left_iff, List.forall₂_same]
    exact fun argument _ => argument.read_tokens
  simp [readOutput?, outputTokens, readIntegers?_integerList, name, pieces, read,
    plain.primitive]

private theorem noSemicolon_outputTokens : .mark ';' ∉ call.outputTokens := by
  have arguments : .mark ';' ∉
      [Token.mark ','].intercalate (call.arguments.map Argument.tokens) := by
    intro member
    rcases mem_intercalate _ _ _ member with same | ⟨piece, among, inside⟩
    · simp at same
    · obtain ⟨argument, -, rfl⟩ := List.mem_map.mp among
      cases argument <;> simp [Argument.tokens, noSemicolon_integerList] at inside
  simp [outputTokens, noSemicolon_integerList, plain.noSemicolon, arguments]

/-- A call is read back from its text. -/
theorem readCall?_text : readCall? call.text = some call := by
  have inputs : (call.inputs.map inputText).map tokens = call.inputs.map inputTokens := by
    rw [List.map_map, List.map_inj_left]
    exact fun input member => tokens_inputText input (plain.inputs input member)
  have pieces : tokens call.text = .mark '-' ::
      [.mark ';'].intercalate (call.inputs.map inputTokens ++ [call.outputTokens, []]) := by
    rw [text, tokens_append " - " _ (Or.inl (by decide)),
      tokens_intercalate "; " ';' (by decide) (by decide) (by decide) (by decide),
      List.map_append, inputs, List.map_cons, List.map_cons, tokens_outputText plain]
    rfl
  -- Semicolons stand between the pieces only, so the text is split where it was joined.
  have apart : ∀ piece ∈ call.inputs.map inputTokens ++ [call.outputTokens, []],
      .mark ';' ∉ piece := by
    simp only [List.mem_append, List.mem_map, List.mem_cons, List.not_mem_nil, or_false]
    rintro piece (⟨input, -, rfl⟩ | rfl | rfl)
    · simp [inputTokens, noSemicolon_integerList]
    · exact noSemicolon_outputTokens plain
    · simp
  have read : (call.inputs.map inputTokens).mapM readInput? = some call.inputs := by
    rw [Outcome.mapM_eq_some_iff, List.forall₂_map_left_iff, List.forall₂_same]
    exact fun input _ => readInput?_inputTokens input
  rw [readCall?, pieces]
  simp [List.splitOn_intercalate _ apart, readOutput?_outputTokens plain, read]

end Call

end Reading

end OpGraph
