import OpGraph.Proofs.Reading.Token

/-!
# Index expressions

The integer expressions that stand inside the brackets and the conditions of a kernel: numerals
and axes under a sign, products, floor quotients and remainders, sums and differences, in this
order of binding and from left to right. Main statement: `readIndex?` gives the expression of
every text that is built up in this order (`IsSum.read`).

The reader keeps what was read before the current operand as two functions, one from the
operand to the product it stands in and one from that product to its sum, and a stack of such
pairs for the parentheses still open.
-/
namespace OpGraph.Reading

inductive Index where
  | number (value : Nat)
  | axis (name : String)
  | neg (operand : Index)
  | add (left right : Index)
  | sub (left right : Index)
  | mul (left right : Index)
  | floorDiv (left right : Index)
  | mod (left right : Index)
  deriving DecidableEq

namespace Index

/-- The value once the axes have values. Division by zero has none. -/
def value? (axes : String → Option Int) : Index → Option Int
  | number value => some value
  | axis name => axes name
  | neg operand => do return -(← operand.value? axes)
  | add left right => do return (← left.value? axes) + (← right.value? axes)
  | sub left right => do return (← left.value? axes) - (← right.value? axes)
  | mul left right => do return (← left.value? axes) * (← right.value? axes)
  | floorDiv left right => do
    let divisor ← right.value? axes
    if divisor = 0 then none else return (← left.value? axes).fdiv divisor
  | mod left right => do
    let divisor ← right.value? axes
    if divisor = 0 then none else return (← left.value? axes).fmod divisor

/-- The axes that an expression reads. -/
def names : Index → List String
  | number _ => []
  | axis name => [name]
  | neg operand => operand.names
  | add left right | sub left right | mul left right | floorDiv left right | mod left right =>
    left.names ++ right.names

def ofWord? (text : String) : Option Index :=
  match natural? text with
  | some value => some (number value)
  | none => if isName text then some (axis text) else none

end Index

/-- Where a reader stands: before an operand or after one. -/
inductive Position where
  | operand (sum product : Index → Index)
  | operator (sum : Index → Index) (product : Index)

/-- The beginning of a sum. -/
def Position.start : Position :=
  .operand id id

/-- Reads on from a position; `outer` holds what stands before each open parenthesis. -/
def readFrom (position : Position) (outer : List ((Index → Index) × (Index → Index))) :
    List Token → Option Index
  | [] =>
    match position, outer with
    | .operator sum product, [] => some (sum product)
    | _, _ => none
  | .word text :: rest =>
    match position, Index.ofWord? text with
    | .operand sum product, some factor => readFrom (.operator sum (product factor)) outer rest
    | _, _ => none
  | .mark '(' :: rest =>
    match position with
    | .operand sum product => readFrom .start ((sum, product) :: outer) rest
    | .operator _ _ => none
  | .mark ')' :: rest =>
    match position, outer with
    | .operator sum product, (outerSum, outerProduct) :: outer =>
      readFrom (.operator outerSum (outerProduct (sum product))) outer rest
    | _, _ => none
  | .mark '-' :: rest =>
    match position with
    | .operand sum product => readFrom (.operand sum fun factor => product (.neg factor)) outer rest
    | .operator sum product => readFrom (.operand (.sub (sum product)) id) outer rest
  | .mark '+' :: rest =>
    match position with
    | .operator sum product => readFrom (.operand (.add (sum product)) id) outer rest
    | .operand _ _ => none
  | .mark '*' :: rest =>
    match position with
    | .operator sum product => readFrom (.operand sum (.mul product)) outer rest
    | .operand _ _ => none
  | .mark '/' :: .mark '/' :: rest =>
    match position with
    | .operator sum product => readFrom (.operand sum (.floorDiv product)) outer rest
    | .operand _ _ => none
  | .mark '%' :: rest =>
    match position with
    | .operator sum product => readFrom (.operand sum (.mod product)) outer rest
    | .operand _ _ => none
  | .mark _ :: _ => none

def readIndex? (ts : List Token) : Option Index :=
  readFrom .start [] ts

/-! ### What is read as an operand, a product or a sum -/

def IsFactor (ts : List Token) (index : Index) : Prop :=
  ∀ sum product outer rest, readFrom (.operand sum product) outer (ts ++ rest) =
    readFrom (.operator sum (product index)) outer rest

def IsProduct (ts : List Token) (index : Index) : Prop :=
  ∀ sum outer rest, readFrom (.operand sum id) outer (ts ++ rest) =
    readFrom (.operator sum index) outer rest

def IsSum (ts : List Token) (index : Index) : Prop :=
  ∃ sum product, sum product = index ∧ ∀ outer rest,
    readFrom .start outer (ts ++ rest) = readFrom (.operator sum product) outer rest

theorem isFactor_word (text : String) (index : Index) (read : Index.ofWord? text = some index) :
    IsFactor [.word text] index := by
  intro sum product outer rest
  simp only [List.cons_append, List.nil_append, readFrom, read]

theorem isFactor_number (n : Nat) : IsFactor [.word (Nat.repr n)] (.number n) := by
  apply isFactor_word
  simp only [Index.ofWord?, natural?_repr]

theorem isFactor_axis (name : String) (isName : isName name = true) :
    IsFactor [.word name] (.axis name) := by
  apply isFactor_word
  have noNumeral : natural? name = none := by
    unfold natural?
    split
    next digits =>
      unfold Reading.isName at isName
      split at isName
      · cases isName
      next c cs chars => simp [chars] at digits isName; simp [digits] at isName
    · rfl
  simp only [Index.ofWord?, noNumeral, isName, if_true]

theorem IsFactor.neg {ts : List Token} {index : Index} (factor : IsFactor ts index) :
    IsFactor (.mark '-' :: ts) (.neg index) := by
  intro sum product outer rest
  exact factor sum (fun factor => product (.neg factor)) outer rest

theorem IsFactor.product {ts : List Token} {index : Index} (factor : IsFactor ts index) :
    IsProduct ts index :=
  fun sum outer rest => factor sum id outer rest

theorem IsProduct.sum {ts : List Token} {index : Index} (product : IsProduct ts index) :
    IsSum ts index :=
  ⟨id, index, rfl, fun outer rest => product id outer rest⟩

/-- A sum in parentheses is an operand again. -/
theorem IsSum.group {ts : List Token} {index : Index} (sum : IsSum ts index) :
    IsFactor (.mark '(' :: ts ++ [.mark ')']) index := by
  obtain ⟨innerSum, innerProduct, rfl, reads⟩ := sum
  intro sum product outer rest
  have inside := reads ((sum, product) :: outer) (.mark ')' :: rest)
  simpa [readFrom] using inside

section Operators

variable {ts us : List Token} {left right : Index}

theorem IsProduct.mul (product : IsProduct ts left) (factor : IsFactor us right) :
    IsProduct (ts ++ .mark '*' :: us) (.mul left right) := by
  intro sum outer rest
  rw [List.append_assoc, product]
  exact factor sum (.mul left) outer rest

theorem IsProduct.floorDiv (product : IsProduct ts left) (factor : IsFactor us right) :
    IsProduct (ts ++ .mark '/' :: .mark '/' :: us) (.floorDiv left right) := by
  intro sum outer rest
  rw [List.append_assoc, product]
  exact factor sum (.floorDiv left) outer rest

theorem IsProduct.mod (product : IsProduct ts left) (factor : IsFactor us right) :
    IsProduct (ts ++ .mark '%' :: us) (.mod left right) := by
  intro sum outer rest
  rw [List.append_assoc, product]
  exact factor sum (.mod left) outer rest

theorem IsSum.add (sum : IsSum ts left) (product : IsProduct us right) :
    IsSum (ts ++ .mark '+' :: us) (.add left right) := by
  obtain ⟨before, last, rfl, reads⟩ := sum
  refine ⟨.add (before last), right, rfl, fun outer rest => ?_⟩
  rw [List.append_assoc, reads]
  exact product (.add (before last)) outer rest

theorem IsSum.sub (sum : IsSum ts left) (product : IsProduct us right) :
    IsSum (ts ++ .mark '-' :: us) (.sub left right) := by
  obtain ⟨before, last, rfl, reads⟩ := sum
  refine ⟨.sub (before last), right, rfl, fun outer rest => ?_⟩
  rw [List.append_assoc, reads]
  exact product (.sub (before last)) outer rest

end Operators

theorem IsSum.read {ts : List Token} {index : Index} (sum : IsSum ts index) :
    readIndex? ts = some index := by
  obtain ⟨before, last, rfl, reads⟩ := sum
  have all := reads [] []
  rw [List.append_nil] at all
  exact all

end OpGraph.Reading
