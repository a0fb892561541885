import OpGraph.Proofs.Reading.Statement

/-!
# Reading statements

Reads the text of a kernel as a statement. Lists are cut at their closing bracket and then at
their commas, neither of which an index expression or a condition holds; so what is written
between brackets reads back, whatever follows it (`readAccess?_written`, `readGuard?_written`).
-/
namespace OpGraph.Reading

/-- The tokens before the first mark of a kind, and those after it. -/
def cut (symbol : Char) : List Token → Option (List Token × List Token)
  | [] => none
  | t :: ts =>
    if t = .mark symbol then some ([], ts)
    else (cut symbol ts).map fun (front, back) => (t :: front, back)

def commaPieces (ts : List Token) : List (List Token) :=
  ts.splitOn (.mark ',')

/-- An element of a tensor at the beginning, and what follows it. -/
def readAccess? : List Token → Option (Access × List Token)
  | .word tensor :: .mark '[' :: ts => do
    let (inside, rest) ← cut ']' ts
    let indices ← (commaPieces inside).mapM readIndex?
    return (⟨tensor, indices⟩, rest)
  | _ => none

def Index.axis? : Index → Option String
  | .axis name => some name
  | _ => none

/-- Whether terms are accumulated or assigned. -/
def readAssignment? : List Token → Option (Bool × List Token)
  | .mark '+' :: .mark '=' :: .mark '!' :: rest => some (true, rest)
  | .mark '=' :: rest => some (false, rest)
  | _ => none

/-- One element or the product of two. -/
def readFactors? (ts : List Token) : Option (List Access × List Token) := do
  let (first, rest) ← readAccess? ts
  match rest with
  | .mark '*' :: rest =>
    let (second, rest) ← readAccess? rest
    return ([first, second], rest)
  | rest => return ([first], rest)

/-- The sides of a comparison; `left` holds the tokens passed, the last of them first. -/
def splitComparison (left : List Token) :
    List Token → Option (List Token × Comparison × List Token)
  | [] => none
  | .mark '>' :: .mark '=' :: ts => some (left.reverse, .atLeast, ts)
  | .mark '<' :: ts => some (left.reverse, .below, ts)
  | .mark '=' :: .mark '=' :: ts => some (left.reverse, .equal, ts)
  | t :: ts => splitComparison (t :: left) ts

def readCondition? (ts : List Token) : Option Condition := do
  let (left, comparison, right) ← splitComparison [] ts
  return ⟨← readIndex? left, comparison, ← readIndex? right⟩

/-- The value of a decimal fraction. -/
def decimal? (whole fraction : String) : Option Rat := do
  return (← natural? whole) + (← natural? fraction) / 10 ^ fraction.length

def readOperand? : List Token → Option (Operand × List Token)
  | .word whole :: .mark '.' :: .word fraction :: rest => do
    return (.constant (← decimal? whole fraction), rest)
  | ts => do
    let (access, rest) ← readAccess? ts
    return (.element access, rest)

def readGuard? : List Token → Option (Option Guard × List Token)
  | .mark '.' :: .word "when" :: .mark '(' :: .mark '[' :: ts => do
    let (inside, rest) ← cut ']' ts
    let conditions ← (commaPieces inside).mapM readCondition?
    match rest with
    | .mark ',' :: rest =>
      match ← readOperand? rest with
      | (otherwise, .mark ')' :: rest) => return (some ⟨conditions, otherwise⟩, rest)
      | _ => none
    | _ => none
  | ts => some (none, ts)

def readDomain? : List Token → Option (String × Nat)
  | [.word name, .word "in", .word extent] => (natural? extent).map (name, ·)
  | _ => none

def readDomains? : List Token → Option (List (String × Nat))
  | [] => some []
  | .word "where" :: ts => (commaPieces ts).mapM readDomain?
  | _ => none

/-- A statement ends with a semicolon. -/
def readStatement? (text : String) : Option Statement := do
  let (target, ts) ← readAccess? (tokens text)
  let axes ← target.indices.mapM Index.axis?
  let (accumulates, ts) ← readAssignment? ts
  let (factors, ts) ← readFactors? ts
  let (guard, ts) ← readGuard? ts
  let (domains, []) ← cut ';' ts | none
  return ⟨target.tensor, axes, accumulates, factors, guard, ← readDomains? domains⟩

/-- A statement is read part by part, each from what the part before it leaves. -/
theorem readStatement?_eq_some {text : String} {target : Access} {axes : List String}
    {accumulates : Bool} {factors : List Access} {guard : Option Guard}
    {domains : List (String × Nat)}
    {all afterTarget afterSign afterFactors afterGuard ts : List Token}
    (scanned : tokens text = all) (written : readAccess? all = some (target, afterTarget))
    (named : target.indices.mapM Index.axis? = some axes)
    (sign : readAssignment? afterTarget = some (accumulates, afterSign))
    (multiplied : readFactors? afterSign = some (factors, afterFactors))
    (guarded : readGuard? afterFactors = some (guard, afterGuard))
    (ended : cut ';' afterGuard = some (ts, [])) (declared : readDomains? ts = some domains) :
    readStatement? text = some ⟨target.tensor, axes, accumulates, factors, guard, domains⟩ := by
  simp only [readStatement?, scanned, written, named, sign, multiplied, guarded, ended, declared,
    Option.bind_eq_bind, Option.bind_some, Option.pure_def]

/-- A factor with no product sign behind it is the only one. -/
theorem readFactors?_single {ts rest : List Token} {access : Access}
    (read : readAccess? ts = some (access, rest)) (last : ∀ rest', rest ≠ .mark '*' :: rest') :
    readFactors? ts = some ([access], rest) := by
  simp only [readFactors?, read, Option.bind_eq_bind, Option.bind_some, Option.pure_def]

theorem readFactors?_pair {ts after rest : List Token} {first second : Access}
    (read : readAccess? ts = some (first, .mark '*' :: after))
    (read' : readAccess? after = some (second, rest)) :
    readFactors? ts = some ([first, second], rest) := by
  simp only [readFactors?, read, read', Option.bind_eq_bind, Option.bind_some, Option.pure_def]

theorem cut_append (symbol : Char) (front back : List Token) (absent : .mark symbol ∉ front) :
    cut symbol (front ++ .mark symbol :: back) = some (front, back) := by
  induction front with
  | nil => simp [cut]
  | cons t front ih =>
    rw [List.mem_cons, not_or] at absent
    simp [cut, Ne.symm absent.1, ih absent.2]

theorem mem_intercalate (separator t : Token) (items : List (List Token))
    (member : t ∈ [separator].intercalate items) :
    t = separator ∨ ∃ item ∈ items, t ∈ item := by
  induction items with
  | nil => simp at member
  | cons item items ih =>
    cases items with
    | nil => exact Or.inr ⟨item, by simp, by simpa using member⟩
    | cons next items =>
      rw [List.intercalate_cons_cons, List.mem_append, List.mem_append,
        List.mem_singleton] at member
      rcases member with (here | here) | later
      · exact Or.inr ⟨item, by simp, here⟩
      · exact Or.inl here
      · rcases ih later with same | ⟨other, among, inside⟩
        · exact Or.inl same
        · exact Or.inr ⟨other, by simp [among], inside⟩

/-! ### Lists in brackets -/

/-- Tokens that can stand in a bracketed list, with what is read from them. -/
structure IsItem {α : Type} (read : List Token → Option α) (ts : List Token) (value : α) :
    Prop where
  reads : read ts = some value
  noComma : .mark ',' ∉ ts
  noBracket : .mark ']' ∉ ts

section Lists

variable {α : Type} {read : List Token → Option α} {items : List (List Token)} {values : List α}

theorem mapM_commaPieces (all : List.Forall₂ (IsItem read) items values) (nonempty : items ≠ []) :
    (commaPieces ([.mark ','].intercalate items)).mapM read = some values := by
  have plain : ∀ item ∈ items, .mark ',' ∉ item := by
    intro item member
    obtain ⟨value, -, isItem⟩ := Outcome.forall₂_mem_left all item member
    exact isItem.noComma
  rw [commaPieces, List.splitOn_intercalate _ plain nonempty, Outcome.mapM_eq_some_iff]
  exact all.imp fun _ _ isItem => isItem.reads

theorem cut_items (all : List.Forall₂ (IsItem read) items values) (rest : List Token) :
    cut ']' ([.mark ','].intercalate items ++ .mark ']' :: rest) =
      some ([.mark ','].intercalate items, rest) := by
  apply cut_append
  intro member
  rcases mem_intercalate _ _ _ member with same | ⟨item, among, inside⟩
  · simp at same
  · obtain ⟨value, -, isItem⟩ := Outcome.forall₂_mem_left all item among
    exact isItem.noBracket inside

end Lists

theorem tokens_intercalate (separator : String) (symbol : Char) (nonempty : separator ≠ "")
    (starts : StartsApart separator) (ends : EndsApart separator)
    (marks : tokens separator = [.mark symbol]) (texts : List String) :
    tokens (separator.intercalate texts) = [.mark symbol].intercalate (texts.map tokens) := by
  induction texts with
  | nil => rfl
  | cons text texts ih =>
    cases texts with
    | nil => simp
    | cons next texts =>
      rw [String.intercalate_cons_cons, tokens_around separator nonempty starts ends, marks, ih]
      simp

theorem tokens_commaList (texts : List String) :
    tokens (Text.commaList texts) = [.mark ','].intercalate (texts.map tokens) :=
  tokens_intercalate ", " ',' (by decide) (by decide) (by decide) (by decide) texts

theorem startsApart_bracketed (texts : List String) : StartsApart (Text.bracketed texts) := by
  rw [Text.bracketed, String.append_assoc]
  exact startsApart_append _ _ (by decide) (by decide)

theorem endsApart_bracketed (texts : List String) : EndsApart (Text.bracketed texts) :=
  endsApart_append _ _ (by decide) (by decide)

theorem tokens_bracketed (texts : List String) :
    tokens (Text.bracketed texts) =
      .mark '[' :: [.mark ','].intercalate (texts.map tokens) ++ [.mark ']'] := by
  rw [Text.bracketed, tokens_append _ _ (Or.inr (by decide)),
    tokens_append _ _ (Or.inl (by decide)), tokens_commaList]
  rfl

/-! ### Elements -/

/-- The marks that index expressions are made of. -/
def indexMarks : List Char :=
  ['(', ')', '-', '+', '*', '/', '%']

private theorem mark_not_mem_of_readFrom (symbol : Char) (foreign : symbol ∉ indexMarks)
    (position : Position) (outer : List ((Index → Index) × (Index → Index))) (ts : List Token)
    (index : Index) (read : readFrom position outer ts = some index) : .mark symbol ∉ ts := by
  fun_induction readFrom position outer ts with
  | _ => simp_all [indexMarks]

theorem IsSum.mark_not_mem {ts : List Token} {index : Index} (sum : IsSum ts index)
    (symbol : Char) (foreign : symbol ∉ indexMarks) : .mark symbol ∉ ts :=
  mark_not_mem_of_readFrom symbol foreign _ _ ts index sum.read

theorem IsSum.item {ts : List Token} {index : Index} (sum : IsSum ts index) :
    IsItem readIndex? ts index :=
  ⟨sum.read, sum.mark_not_mem ',' (by decide), sum.mark_not_mem ']' (by decide)⟩

/-- A text that is read as an index expression. -/
def Denotes (text : String) (index : Index) : Prop :=
  IsSum (tokens text) index

theorem toString_natCast (n : Nat) : toString (n : Int) = Nat.repr n :=
  rfl

theorem denotes_number (n : Nat) : Denotes (toString (n : Int)) (.number n) := by
  rw [Denotes, toString_natCast, tokens_repr]
  exact (isFactor_number n).product.sum

/-- An element is read back from its name and its indices. -/
theorem readAccess?_written (tensor : String) (plain : tokens tensor = [.word tensor])
    (texts : List String) (indices : List Index) (denote : List.Forall₂ Denotes texts indices)
    (nonempty : texts ≠ []) (rest : List Token) :
    readAccess? (tokens (tensor ++ Text.bracketed texts) ++ rest) =
      some (⟨tensor, indices⟩, rest) := by
  have items : List.Forall₂ (IsItem readIndex?) (texts.map tokens) indices :=
    List.forall₂_map_left_iff.mpr (denote.imp fun _ _ sum => sum.item)
  have inside := cut_items items rest
  rw [tokens_append _ _ (Or.inr (startsApart_bracketed texts)), plain, tokens_bracketed]
  simp [readAccess?, inside, mapM_commaPieces items (by simpa using nonempty)]

theorem readOperand?_written (tensor : String) (plain : tokens tensor = [.word tensor])
    (texts : List String) (indices : List Index) (denote : List.Forall₂ Denotes texts indices)
    (nonempty : texts ≠ []) (rest : List Token) :
    readOperand? (tokens (tensor ++ Text.bracketed texts) ++ rest) =
      some (.element ⟨tensor, indices⟩, rest) := by
  have access := readAccess?_written tensor plain texts indices denote nonempty rest
  rw [tokens_append _ _ (Or.inr (startsApart_bracketed texts)), plain, tokens_bracketed] at access ⊢
  simp only [List.cons_append, List.nil_append] at access ⊢
  rw [readOperand?.eq_2 _ (by simp)]
  simp only [access, Option.bind_eq_bind, Option.bind_some, Option.pure_def]

/-! ### Conditions -/

namespace Comparison

def marks : Comparison → List Token
  | atLeast => [.mark '>', .mark '=']
  | below => [.mark '<']
  | equal => [.mark '=', .mark '=']

end Comparison

private theorem splitComparison_append (comparison : Comparison) (passed left right : List Token)
    (noLess : .mark '<' ∉ left) (noGreater : .mark '>' ∉ left) (noEqual : .mark '=' ∉ left) :
    splitComparison passed (left ++ (comparison.marks ++ right)) =
      some (passed.reverse ++ left, comparison, right) := by
  induction left generalizing passed with
  | nil => cases comparison <;> simp [splitComparison, Comparison.marks]
  | cons t left ih =>
    simp only [List.mem_cons, not_or] at noLess noGreater noEqual
    have later := ih (t :: passed) noLess.2 noGreater.2 noEqual.2
    -- A token that begins no comparison is passed.
    rw [List.cons_append, splitComparison.eq_5]
    · simpa using later
    · rintro rest rfl
      simp at noGreater
    · rintro rfl
      simp at noLess
    · rintro rest rfl
      simp at noEqual

/-- Two index expressions with a comparison between them are read as a condition. -/
theorem isItem_condition (comparison : Comparison) (ts us : List Token) (left right : Index)
    (leftSum : IsSum ts left) (rightSum : IsSum us right) :
    IsItem readCondition? (ts ++ (comparison.marks ++ us)) ⟨left, comparison, right⟩ := by
  have split := splitComparison_append comparison [] ts us (leftSum.mark_not_mem '<' (by decide))
    (leftSum.mark_not_mem '>' (by decide)) (leftSum.mark_not_mem '=' (by decide))
  refine ⟨?_, ?_, ?_⟩
  · simp [readCondition?, split, leftSum.read, rightSum.read]
  all_goals
    simp only [List.mem_append, not_or]
    exact ⟨IsSum.mark_not_mem leftSum _ (by decide), by cases comparison <;> decide,
      IsSum.mark_not_mem rightSum _ (by decide)⟩

/-- A text that is read as a condition. -/
def IsCondition (text : String) (condition : Condition) : Prop :=
  IsItem readCondition? (tokens text) condition

theorem isCondition (comparison : Comparison) (sign left right : String) (nonempty : sign ≠ "")
    (starts : StartsApart sign) (ends : EndsApart sign) (marks : tokens sign = comparison.marks)
    (i j : Index) (first : Denotes left i) (second : Denotes right j) :
    IsCondition (left ++ sign ++ right) ⟨i, comparison, j⟩ := by
  rw [IsCondition, tokens_around sign nonempty starts ends, marks, List.append_assoc]
  exact isItem_condition comparison _ _ i j first second

/-- A guard is read back from its conditions and its other operand. -/
theorem readGuard?_written (texts : List String) (conditions : List Condition)
    (items : List.Forall₂ IsCondition texts conditions) (nonempty : texts ≠ [])
    (otherwise : Operand) (ts rest : List Token)
    (operand : readOperand? (ts ++ .mark ')' :: rest) = some (otherwise, .mark ')' :: rest)) :
    readGuard? (.mark '.' :: .word "when" :: .mark '(' ::
        (tokens (Text.bracketed texts) ++ .mark ',' :: (ts ++ .mark ')' :: rest))) =
      some (some ⟨conditions, otherwise⟩, rest) := by
  have all : List.Forall₂ (IsItem readCondition?) (texts.map tokens) conditions :=
    List.forall₂_map_left_iff.mpr items
  have inside := cut_items all (.mark ',' :: (ts ++ .mark ')' :: rest))
  rw [tokens_bracketed]
  simp [readGuard?, inside, mapM_commaPieces all (by simpa using nonempty), operand]

end OpGraph.Reading
