import OpGraph.Text.Fields

/-!
# Tokens of kernels

A kernel is read as words (names and numerals) and single marks, with spaces only between
them. Main statement: the tokens of two texts put together are the tokens of the first and
those of the second, as soon as no word runs across the seam (`tokens_append`).
-/
namespace OpGraph.Reading

inductive Token where
  | word (text : String)
  | mark (symbol : Char)
  deriving DecidableEq

def isWordChar (c : Char) : Bool :=
  c.isAlphanum || c == '_'

/-- Ends the word read so far, if there is one. -/
def endWord (word : List Char) (tokens : List Token) : List Token :=
  if word.isEmpty then tokens else .word (String.ofList word.reverse) :: tokens

/-- The tokens of a text; `word` holds the word begun before it, its last character first. -/
def tokensFrom (word : List Char) : List Char → List Token
  | [] => endWord word []
  | c :: cs =>
    if isWordChar c then tokensFrom (c :: word) cs
    else if c = ' ' then endWord word (tokensFrom [] cs)
    else endWord word (.mark c :: tokensFrom [] cs)

def tokens (text : String) : List Token :=
  tokensFrom [] text.toList

/-- No word starts at the beginning of the text. -/
def StartsApart (text : String) : Prop :=
  ∀ c ∈ text.toList.head?, isWordChar c = false

/-- No word reaches the end of the text. -/
def EndsApart (text : String) : Prop :=
  ∀ c ∈ text.toList.getLast?, isWordChar c = false

instance (text : String) : Decidable (StartsApart text) :=
  decidable_of_iff ((text.toList.head?.all fun c => !isWordChar c) = true)
    (by simp [StartsApart, Option.all_eq_true])

instance (text : String) : Decidable (EndsApart text) :=
  decidable_of_iff ((text.toList.getLast?.all fun c => !isWordChar c) = true)
    (by simp [EndsApart, Option.all_eq_true])

/-- The text is a single run of word characters. -/
def IsWord (text : String) : Prop :=
  ∀ c ∈ text.toList, isWordChar c = true

instance (text : String) : Decidable (IsWord text) :=
  decidable_of_iff (text.toList.all isWordChar = true) (by simp [IsWord])

theorem endWord_append (word : List Char) (front back : List Token) :
    endWord word (front ++ back) = endWord word front ++ back := by
  unfold endWord
  split <;> rfl

private theorem tokensFrom_apart (word : List Char) (text : List Char)
    (apart : ∀ c ∈ text.head?, isWordChar c = false) :
    tokensFrom word text = endWord word (tokensFrom [] text) := by
  cases text with
  | nil => rfl
  | cons c cs =>
    have mark : isWordChar c = false := apart c rfl
    simp only [tokensFrom, mark, Bool.false_eq_true, if_false]
    split <;> rfl

private theorem tokensFrom_append (word front back : List Char)
    (apart : (∀ c ∈ front.getLast?, isWordChar c = false) ∧ (front = [] → word = []) ∨
      ∀ c ∈ back.head?, isWordChar c = false) :
    tokensFrom word (front ++ back) = tokensFrom word front ++ tokensFrom [] back := by
  induction front generalizing word with
  | nil =>
    rcases apart with ⟨-, unbegun⟩ | apart
    · simp [unbegun rfl, tokensFrom, endWord]
    · rw [List.nil_append, tokensFrom_apart word back apart, tokensFrom, ← endWord_append]
      rfl
  | cons c front ih =>
    -- What is assumed of the end of the front also holds of its tail.
    have later (word' : List Char) (unbegun : isWordChar c = false → word' = []) :
        (∀ d ∈ front.getLast?, isWordChar d = false) ∧ (front = [] → word' = []) ∨
          ∀ d ∈ back.head?, isWordChar d = false := by
      rcases apart with ⟨apart, -⟩ | apart
      · left
        cases front with
        | nil => exact ⟨by simp, fun _ => unbegun (apart c rfl)⟩
        | cons d front => exact ⟨by simpa using apart, by simp⟩
      · exact Or.inr apart
    simp only [List.cons_append, tokensFrom]
    split
    next isWord => exact ih _ (later _ (by simp [isWord]))
    next isMark =>
      rw [ih [] (later [] fun _ => rfl)]
      split
      · exact endWord_append _ _ _
      · rw [← List.cons_append, endWord_append]

theorem tokens_append (front back : String) (apart : EndsApart front ∨ StartsApart back) :
    tokens (front ++ back) = tokens front ++ tokens back := by
  rw [tokens, String.toList_append, tokensFrom_append]
  · rfl
  · rcases apart with apart | apart
    · exact Or.inl ⟨apart, fun _ => rfl⟩
    · exact Or.inr apart

theorem startsApart_append (front back : String) (nonempty : front ≠ "")
    (apart : StartsApart front) : StartsApart (front ++ back) := by
  intro c member
  apply apart c
  have first : front.toList ≠ [] := by simpa using nonempty
  rw [String.toList_append] at member
  cases text : front.toList with
  | nil => exact absurd text first
  | cons d rest => simpa [text] using member

theorem endsApart_append (front back : String) (nonempty : back ≠ "")
    (apart : EndsApart back) : EndsApart (front ++ back) := by
  intro c member
  apply apart c
  have last : back.toList ≠ [] := by simpa using nonempty
  rw [String.toList_append, List.getLast?_append] at member
  cases final : back.toList.getLast? with
  | none => exact absurd (List.getLast?_eq_none_iff.mp final) last
  | some d => simpa [final] using member

/-- A separator that starts and ends apart keeps what is around it apart. -/
theorem tokens_around (separator : String) (nonempty : separator ≠ "")
    (starts : StartsApart separator) (ends : EndsApart separator) (front back : String) :
    tokens (front ++ separator ++ back) = tokens front ++ tokens separator ++ tokens back := by
  rw [tokens_append _ _ (Or.inl (endsApart_append front separator nonempty ends)),
    tokens_append _ _ (Or.inr starts)]

/-- A text of word characters is one token. -/
theorem tokens_word (text : String) (nonempty : text ≠ "")
    (plain : IsWord text) : tokens text = [.word text] := by
  have collect : ∀ (cs word : List Char), (∀ c ∈ cs, isWordChar c = true) →
      tokensFrom word cs = endWord (cs.reverse ++ word) [] := by
    intro cs
    induction cs with
    | nil => intro word _; rfl
    | cons c cs ih =>
      intro word plain
      simp only [tokensFrom, plain c (by simp), if_true]
      rw [ih _ fun d member => plain d (by simp [member])]
      simp
  rw [tokens, collect _ _ plain]
  simp [endWord, nonempty]

/-! ### Numerals and names -/

def natural? (text : String) : Option Nat :=
  if text ≠ "" ∧ text.toList.all Char.isDigit then some (Nat.ofDigitChars 10 text.toList 0)
  else none

/-- A name is a word that does not start with a digit. -/
def isName (text : String) : Bool :=
  match text.toList with
  | [] => false
  | c :: _ => !c.isDigit

theorem toList_repr_digits (n : Nat) : ∀ c ∈ (Nat.repr n).toList, c.isDigit = true := by
  intro c member
  rw [Nat.toList_repr] at member
  exact Nat.isDigit_of_mem_toDigits (by decide) (by decide) member

theorem repr_ne_empty (n : Nat) : Nat.repr n ≠ "" := by
  intro empty
  have none : Nat.toDigits 10 n = [] := by
    rw [← Nat.toList_repr, empty]
    rfl
  exact Nat.toDigits_ne_nil none

theorem natural?_repr (n : Nat) : natural? (Nat.repr n) = some n := by
  have digits : (Nat.repr n).toList.all Char.isDigit = true :=
    List.all_eq_true.mpr (toList_repr_digits n)
  rw [natural?, if_pos ⟨repr_ne_empty n, digits⟩, Nat.toList_repr, Nat.ofDigitChars_ten_toDigits]

theorem isWordChar_of_isDigit (c : Char) (digit : c.isDigit = true) : isWordChar c = true := by
  simp [isWordChar, Char.isAlphanum, digit]

theorem tokens_repr (n : Nat) : tokens (Nat.repr n) = [.word (Nat.repr n)] :=
  tokens_word _ (repr_ne_empty n) fun c member =>
    isWordChar_of_isDigit c (toList_repr_digits n c member)

end OpGraph.Reading
