import OpGraph.Kernel.Affine
import OpGraph.Proofs.Integers
import OpGraph.Proofs.Reading.Call

/-!
# Affine index texts

An offset and scaled axes are written without what does not change the sum: a zero offset and
unit scales. Main statements: the text reads back as an index expression (`denotes_index`) whose
value is the offset plus the scaled values of the axes (`value?_expression`).
-/
namespace OpGraph.Affine

open Reading

/-- An integer with its sign in front. -/
def literal (n : Int) : Index :=
  if n < 0 then .neg (.number n.natAbs) else .number n.natAbs

def scaled (axis : String) (scale : Int) : Index :=
  if scale = 1 then .axis axis else .mul (.axis axis) (literal scale)

/-- The sum of expressions from left to right; there are none in an empty sum. -/
def sum : List Index → Index
  | [] => .number 0
  | first :: others => others.foldl .add first

def summands (offset : Int) (terms : List (String × Int)) : List Index :=
  (if offset = 0 then [] else [literal offset]) ++ terms.map fun (axis, scale) => scaled axis scale

def expression (offset : Int) (terms : List (String × Int)) : Index :=
  sum (summands offset terms)

/-- The terms as translators give them. -/
def valued (terms : List (String × Int)) : List (String × Value) :=
  terms.map fun (axis, scale) => (axis, .int scale)

private theorem elided_or_short {n unit : Int} (short : Text.isShort unit = true) :
    ((Value.int n).equalsInt unit || (Value.int n).isShort) = Text.isShort n := by
  cases same : (Value.int n).equalsInt unit with
  | false => rfl
  | true =>
    rw [Value.equalsInt_int] at same
    rw [same, short]
    rfl

/-- The numbers that are left out could be written too. -/
theorem isShort_valued {offset : Int} {terms : List (String × Int)} :
    isShort (.int offset) (valued terms) = true ↔
      ∀ n ∈ offset :: terms.map Prod.snd, Text.isShort n = true := by
  have scales : (valued terms).all (fun term => term.2.equalsInt 1 || term.2.isShort) =
      (terms.map Prod.snd).all Text.isShort := by
    rw [valued, List.all_map, List.all_map]
    exact List.all_congr rfl fun term => elided_or_short (by decide)
  have both : isShort (.int offset) (valued terms) =
      (Text.isShort offset && (terms.map Prod.snd).all Text.isShort) := by
    rw [← scales, ← @elided_or_short offset 0 (by decide)]
    rfl
  rw [both, ← List.all_cons, List.all_eq_true]

/-! ### Reading -/

theorem isFactor_literal (n : Int) : IsFactor (tokens (toString n)) (literal n) := by
  rw [tokens_toString, literal]
  split
  · exact (isFactor_number n.natAbs).neg
  · exact isFactor_number n.natAbs

theorem isProduct_term (axis : String) (scale : Int)
    (factor : IsFactor (tokens axis) (.axis axis)) :
    IsProduct (tokens (termText axis (.int scale))) (scaled axis scale) := by
  simp only [termText, scaled, Value.equalsInt_int]
  split
  · exact factor.product
  · rw [tokens_around " * " (by decide) (by decide) (by decide),
      show tokens " * " = [.mark '*'] by decide, List.append_assoc]
    exact factor.product.mul (isFactor_literal scale)

/-- What follows a sum is added to it, product by product. -/
private theorem isSum_foldl (texts : List String) (products : List Index)
    (all : List.Forall₂ (fun text product => IsProduct (tokens text) product) texts products)
    (before : List Token) (first : Index) (sum : IsSum before first) :
    IsSum (before ++ texts.flatMap fun text => .mark '+' :: tokens text)
      (products.foldl .add first) := by
  induction all generalizing before first with
  | nil => simpa using sum
  | @cons text product texts products here _ ih =>
    have longer := ih _ _ (sum.add here)
    simpa using longer

private theorem tokens_plus (text : String) (texts : List String) :
    tokens (" + ".intercalate (text :: texts)) =
      tokens text ++ texts.flatMap fun text => .mark '+' :: tokens text := by
  rw [tokens_intercalate " + " '+' (by decide) (by decide) (by decide) (by decide)]
  induction texts generalizing text with
  | nil => simp
  | cons next texts ih =>
    have later := ih next
    simp only [List.map_cons, List.intercalate_cons_cons, List.flatMap_cons] at later ⊢
    rw [later]
    simp

/-- A text of products with plus signs between them is read as their sum. -/
theorem denotes_sum (texts : List String) (products : List Index)
    (all : List.Forall₂ (fun text product => IsProduct (tokens text) product) texts products)
    (nonempty : texts ≠ []) : Denotes (" + ".intercalate texts) (sum products) := by
  cases all with
  | nil => exact absurd rfl nonempty
  | cons here there =>
    rw [Denotes, tokens_plus]
    exact isSum_foldl _ _ there _ _ here.sum

theorem denotes_index (offset : Int) (terms : List (String × Int))
    (factors : ∀ entry ∈ terms, IsFactor (tokens entry.1) (.axis entry.1)) :
    Denotes (indexText (.int offset) (valued terms)) (expression offset terms) := by
  let parts := (if (Value.int offset).equalsInt 0 then [] else [(Value.int offset).display]) ++
    (valued terms).map fun entry => termText entry.1 entry.2
  have written : indexText (.int offset) (valued terms) =
      if parts.isEmpty then "0" else " + ".intercalate parts := rfl
  have scales : List.Forall₂ (fun text product => IsProduct (tokens text) product)
      ((valued terms).map fun entry => termText entry.1 entry.2)
      (terms.map fun entry => scaled entry.1 entry.2) := by
    rw [valued, List.map_map, List.forall₂_map_left_iff, List.forall₂_map_right_iff,
      List.forall₂_same]
    intro entry member
    exact isProduct_term entry.1 entry.2 (factors entry member)
  have all : List.Forall₂ (fun text product => IsProduct (tokens text) product) parts
      (summands offset terms) := by
    refine List.rel_append ?_ scales
    simp only [Value.equalsInt_int]
    split
    · exact .nil
    · exact .cons (isFactor_literal offset).product .nil
  rw [written, expression]
  -- Without any part the text is a zero, as is the empty sum.
  by_cases none : parts = []
  · rw [none] at all
    rw [none, List.forall₂_nil_left_iff.mp all]
    exact denotes_number 0
  · have filled : parts.isEmpty = false := by simpa using none
    rw [filled, if_neg (by decide)]
    exact denotes_sum _ _ all none

/-! ### Values -/

section Values

variable (axes : Axes)

@[simp] theorem value?_literal (n : Int) : (literal n).value? axes = some n := by
  unfold literal
  split
  next negative =>
    have value : -(n.natAbs : Int) = n := by omega
    exact congrArg some value
  next positive =>
    have value : (n.natAbs : Int) = n := by omega
    exact congrArg some value

theorem value?_scaled (axis : String) (scale value : Int) (held : axes axis = some value) :
    (scaled axis scale).value? axes = some (value * scale) := by
  unfold scaled
  split
  next one => simp [Index.value?, held, one]
  · simp [Index.value?, held]

private theorem value?_foldl (products : List Index) (values : List Int)
    (all : List.Forall₂ (fun product value => Index.value? axes product = some value)
      products values) (first : Index) (before : Int) (held : first.value? axes = some before) :
    (products.foldl .add first).value? axes = some (before + values.sum) := by
  induction all generalizing first before with
  | nil => simpa using held
  | @cons product value products values here _ ih =>
    have added : (Index.add first product).value? axes = some (before + value) := by
      simp [Index.value?, held, here]
    rw [List.foldl_cons, ih _ _ added, List.sum_cons, Int.add_assoc]

theorem value?_sum (products : List Index) (values : List Int)
    (all : List.Forall₂ (fun product value => Index.value? axes product = some value)
      products values) : (sum products).value? axes = some values.sum := by
  cases all with
  | nil => rfl
  | cons here there =>
    rw [List.sum_cons]
    exact value?_foldl axes _ _ there _ _ here

/-- The value of the text is the offset plus the values of the axes, each times its scale. -/
theorem value?_expression (offset : Int) (terms : List (String × Int)) (value : String → Int)
    (held : ∀ entry ∈ terms, axes entry.1 = some (value entry.1)) :
    (expression offset terms).value? axes =
      some (offset + (terms.map fun (axis, scale) => value axis * scale).sum) := by
  have scales : List.Forall₂ (fun product value => Index.value? axes product = some value)
      (terms.map fun (axis, scale) => scaled axis scale)
      (terms.map fun (axis, scale) => value axis * scale) := by
    rw [List.forall₂_map_left_iff, List.forall₂_map_right_iff, List.forall₂_same]
    intro entry member
    exact value?_scaled axes entry.1 entry.2 _ (held entry member)
  unfold expression summands
  split
  next zero => rw [zero, Int.zero_add, List.nil_append, value?_sum axes _ _ scales]
  · rw [List.singleton_append, value?_sum axes _ _ (.cons (value?_literal axes offset) scales),
      List.sum_cons]

end Values

/-! ### Axes -/

theorem names_literal (n : Int) : (literal n).names = [] := by
  unfold literal
  split <;> rfl

theorem names_scaled (axis : String) (scale : Int) : (scaled axis scale).names = [axis] := by
  unfold scaled
  split
  · rfl
  · simp [Index.names, names_literal]

private theorem names_foldl (products : List Index) (first : Index) :
    (products.foldl .add first).names = first.names ++ products.flatMap Index.names := by
  induction products generalizing first with
  | nil => simp
  | cons product products ih => simp [ih, Index.names]

theorem names_sum (products : List Index) :
    (sum products).names = products.flatMap Index.names := by
  cases products with
  | nil => rfl
  | cons product products => exact names_foldl products product

/-- The expression reads the axes of its terms. -/
theorem names_expression (offset : Int) (terms : List (String × Int)) :
    (expression offset terms).names = terms.map Prod.fst := by
  have axes : (terms.map fun (axis, scale) => scaled axis scale).flatMap Index.names =
      terms.map Prod.fst := by
    simp only [List.flatMap_map, names_scaled]
    exact List.map_eq_flatMap.symm
  unfold expression summands
  rw [names_sum, List.flatMap_append, axes]
  split
  · rfl
  · simp [names_literal]

end OpGraph.Affine
