import OpGraph.Kernel.Translation.Dot
import OpGraph.Proofs.Kernel.Call
import OpGraph.Proofs.Operator.Dot

/-!
# Kernels of matrix products

Both kernels of an accepted product give the products of rows with columns that evaluation
gives. The call hands the matrices on; the statement sums over an axis of its own, whose extent
is written after it.
-/
namespace OpGraph

open Reading

namespace Dot

variable (rows inner columns : Nat)

/-! ### The call -/

def call : Reading.Call :=
  Call.written [[rows, inner], [inner, columns]] [rows, columns] .matmul []

theorem inputs_call : (call rows inner columns).inputs =
    [("input0", [(rows : Int), inner]), ("input1", [(inner : Int), columns])] := by
  simp [call, Call.written, List.range_succ]

theorem arguments_call : (call rows inner columns).arguments =
    [.input "input0", .input "input1"] := by
  simp [call, Call.written, List.range_succ]

theorem isPlain_call : (call rows inner columns).IsPlain :=
  Call.isPlain_written (by simp) (by simp)

theorem isUnmarked_call : Template.IsUnmarked (call rows inner columns).text :=
  Call.isUnmarked_written (by simp)

theorem isShort_product (short : (Shape.ofLengths [rows, inner]).isShort = true)
    (short' : (Shape.ofLengths [inner, columns]).isShort = true) :
    (Shape.ofLengths [rows, columns]).isShort = true := by
  simp only [Shape.isShort_ofLengths, List.all_cons, List.all_nil, Bool.and_true,
    Bool.and_eq_true] at short short' ⊢
  exact ⟨short.1, short'.2⟩

theorem translateDirect_matrices (name : String) (etype etype' merged : ElementType)
    (short : (Shape.ofLengths [rows, inner]).isShort = true)
    (short' : (Shape.ofLengths [inner, columns]).isShort = true) :
    translateDirect ⟨name, .dot, 2, .ok [⟨.ofLengths [rows, inner], etype⟩,
        ⟨.ofLengths [inner, columns], etype'⟩], .ok [⟨.ofLengths [rows, columns], merged⟩]⟩ =
      .ok (.direct (call rows inner columns).text) := by
  have found : Primitive.find (.text kind) (.text "") = .ok .matmul := by
    rfl
  have product := isShort_product rows inner columns short short'
  have code := Call.code_eq_text name .dot [⟨.ofLengths [rows, inner], etype⟩,
    ⟨.ofLengths [inner, columns], etype'⟩] [[rows, inner], [inner, columns]] [rows, columns]
    merged .matmul [] rfl (by simp) (by simp [short, short']) product
  have noKeys : Call.keyText [] = "" := by
    rfl
  rw [noKeys] at code
  rw [show [[rows, inner], [inner, columns]].length = 2 from rfl] at code
  simp only [translateDirect, requireDot, Outcome.ok_bind, found, code]
  rfl

section Running

variable (a b : Tensor) (shape : a.shape = [rows, inner]) (shape' : b.shape = [inner, columns])
  (same : a.etype = b.etype)

include shape shape' in
private theorem term?_eq (row column k : Nat) (inRows : row < rows) (inColumns : column < columns)
    (inInner : k < inner) :
    (elementAt? a [(row : Int), k]).bind (fun element =>
        (elementAt? b [(k : Int), column]).bind fun factor => some (element * factor)) =
      some (a.elements.get [row, k] * b.elements.get [k, column]) := by
  have place : NDArray.InBounds a.shape [row, k] := by
    rw [shape]
    exact ⟨inRows, inInner, trivial⟩
  have place' : NDArray.InBounds b.shape [k, column] := by
    rw [shape']
    exact ⟨inInner, inColumns, trivial⟩
  have element : elementAt? a [(row : Int), k] = some (a.elements.get [row, k]) :=
    elementAt?_natCast a [row, k] place
  have factor : elementAt? b [(k : Int), column] = some (b.elements.get [k, column]) :=
    elementAt?_natCast b [k, column] place'
  rw [element, factor]
  rfl

include shape shape' same in
theorem matmul?_matrices : matmul? a b = some (product rows inner columns a b) := by
  -- The element types are equal, so none is converted.
  have promoted : a.etype.promote b.etype = a.etype := by
    rw [← same]
    exact ElementType.promote_self a.etype
  unfold matmul?
  simp only [shape, shape', promoted, ne_eq, not_true_eq_false, if_false, Option.bind_eq_bind,
    Option.pure_def]
  rw [product_eq,
    NDArray.tabulate?_eq_some _ _ fun index => a.etype.reduce (contraction inner a b index)]
  · rfl
  · intro index inside
    obtain ⟨row, column, rfl⟩ := List.length_eq_two.mp (NDArray.inBounds_length _ _ inside)
    have sum := sum?_eq_some inner _ _ fun k below =>
      term?_eq rows inner columns a b shape shape' row column k inside.1 inside.2.1 below
    simp only [sum, Option.bind_some, contraction]

include shape shape' same in
theorem run?_call : (call rows inner columns).run? [("input0", a), ("input1", b)] =
    some (product rows inner columns a b) := by
  have declared : [a, b].map Tensor.shape = [[rows, inner], [inner, columns]] := by
    simp [shape, shape']
  have ran : runPrimitive? Primitive.matmul.name [a, b] [] =
      some (product rows inner columns a b) :=
    matmul?_matrices rows inner columns a b shape shape' same
  rw [← Call.operands_pair]
  exact Call.run?_written [a, b] _ declared ran rfl

end Running

/-! ### The statement -/

/-- The extent of the axis that is summed over is declared. -/
def statement : Statement where
  output := "output0"
  axes := ["I", "J"]
  accumulates := true
  factors := [⟨"input0", [.axis "I", .axis "K"]⟩, ⟨"input1", [.axis "K", .axis "J"]⟩]
  guard := none
  domains := [("K", inner)]

/-- The code before the extent of the axis that is summed over. -/
private def front : String :=
  " " ++ ("output0" ++ Text.bracketed ["I", "J"] ++ " +=! " ++
    ("input0" ++ Text.bracketed ["I", "K"] ++ " * " ++
      ("input1" ++ Text.bracketed ["K", "J"] ++ " where K in ")))

private def codeText : String :=
  front ++ (toString (inner : Int) ++ "; ")

private theorem render_indexedTemplate :
    Substitutions.render ⟨[("reduction", toString (inner : Int))]⟩ indexedTemplate =
      .ok (codeText inner) := by
  have template : indexedTemplate = Template.written
      [.text front, .hole "reduction", .text "; "] := by
    decide +kernel
  rw [Substitutions.render, template, Template.render_written _ _ (by decide +kernel)]
  · simp only [Template.filled, Template.Segment.filled, Substitutions.get?, List.lookup_cons,
      beq_self_eq_true, Option.getD_some, codeText, String.append_empty]
  · simp [Template.Segment.known, Substitutions.get?, List.lookup_cons]

theorem translateIndexed_matrices (name : String) (second : TensorType) (etype : ElementType)
    (outputs : List TensorType) (short : (Shape.ofLengths [rows, inner]).isShort = true) :
    translateIndexed ⟨name, .dot, 2, .ok [⟨.ofLengths [rows, inner], etype⟩, second],
        .ok outputs⟩ =
      .ok (.indexed (codeText inner) ExecutionPlan.matmul.name) := by
  have plan : ExecutionPlan.find (.text kind) (.text "") = .ok .matmul := by
    rfl
  have written : Text.isShort inner = true := by
    simp only [Shape.isShort_ofLengths, List.all_cons, Bool.and_eq_true] at short
    exact short.2.1
  simp only [translateIndexed, requireDot, Outcome.ok_bind, NodeView.inputShape, typeAt,
    List.getElem?_cons_zero, pure_bind, Shape.toLengths_ofLengths, Substitutions.empty,
    Substitutions.setInteger_eq _ "reduction" _ (by decide) written, Substitutions.insert,
    render_indexedTemplate, plan]
  rfl

theorem isUnmarked_codeText : Template.IsUnmarked (codeText inner) := by
  rw [codeText, Template.isUnmarked_append, Template.isUnmarked_append]
  exact ⟨by decide +kernel, Template.isUnmarked_toString inner, by decide⟩

theorem codeText_ne_empty : codeText inner ≠ "" := by
  simp [codeText]

private theorem tokens_codeText : tokens (codeText inner) =
    tokens ("output0" ++ Text.bracketed ["I", "J"]) ++ .mark '+' :: .mark '=' :: .mark '!' ::
      (tokens ("input0" ++ Text.bracketed ["I", "K"]) ++ .mark '*' ::
        (tokens ("input1" ++ Text.bracketed ["K", "J"]) ++
          [.word "where", .word "K", .word "in", .word (Nat.repr inner), .mark ';'])) := by
  have closed : EndsApart ("input1" ++ Text.bracketed ["K", "J"]) :=
    endsApart_append _ _ (by simp [Text.bracketed]) (endsApart_bracketed _)
  rw [codeText, tokens_append front _ (Or.inl (by decide)), front,
    tokens_append " " _ (Or.inl (by decide)),
    tokens_around " +=! " (by decide) (by decide) (by decide),
    tokens_around " * " (by decide) (by decide) (by decide),
    tokens_append _ " where K in " (Or.inl closed), toString_natCast,
    tokens_append _ "; " (Or.inr (by decide)), tokens_repr,
    show tokens " " = [] by decide,
    show tokens " +=! " = [.mark '+', .mark '=', .mark '!'] by decide,
    show tokens " * " = [.mark '*'] by decide,
    show tokens " where K in " = [.word "where", .word "K", .word "in"] by decide,
    show tokens "; " = [.mark ';'] by decide]
  simp

theorem readStatement?_codeText : readStatement? (codeText inner) = some (statement inner) := by
  have axis (name : String) (named : isName name = true)
      (plain : IsWord name) : Denotes name (.axis name) :=
    denotes_name name named plain
  have row := axis "I" (by decide) (by decide)
  have column := axis "J" (by decide) (by decide)
  have inner' := axis "K" (by decide) (by decide)
  have output := readAccess?_written "output0" (by decide) ["I", "J"] _
    (.cons row (.cons column .nil)) (by simp)
  have first := readAccess?_written "input0" (by decide) ["I", "K"] _
    (.cons row (.cons inner' .nil)) (by simp)
  have second := readAccess?_written "input1" (by decide) ["K", "J"] _
    (.cons inner' (.cons column .nil)) (by simp)
  -- The clause behind the product declares one axis.
  have domains : readDomains? [.word "where", .word "K", .word "in", .word (Nat.repr inner)] =
      some [("K", inner)] := by
    have plain : ∀ item ∈ [[Token.word "K", .word "in", .word (Nat.repr inner)]],
        .mark ',' ∉ item := by
      simp
    have pieces := List.splitOn_intercalate _ plain (by simp)
    rw [List.intercalate_singleton] at pieces
    simp [readDomains?, commaPieces, pieces, readDomain?, natural?_repr]
  exact readStatement?_eq_some (tokens_codeText inner) (output _) rfl rfl
    (readFactors?_pair (first _) (second _)) rfl rfl domains

/-! ### Running the statement -/

section Running

variable (a b : Tensor) (shape : a.shape = [rows, inner]) (shape' : b.shape = [inner, columns])

include shape shape' in
private theorem term?_statement (axes : Axes) (row column k : Nat)
    (inRows : row < rows) (inColumns : column < columns) (inInner : k < inner)
    (atRow : axes "I" = some (row : Int)) (atColumn : axes "J" = some (column : Int))
    (atInner : axes "K" = some (k : Int)) :
    (statement inner).term? [("input0", a), ("input1", b)] axes =
      some (a.elements.get [row, k] * b.elements.get [k, column]) := by
  have first : (⟨"input0", [.axis "I", .axis "K"]⟩ : Access).value?
      [("input0", a), ("input1", b)] axes = some (a.elements.get [row, k]) := by
    apply value?_axes _ axes "input0" ["I", "K"] a [row, k] rfl
    · exact .cons atRow (.cons atInner .nil)
    · rw [shape]
      exact ⟨inRows, inInner, trivial⟩
  have second : (⟨"input1", [.axis "K", .axis "J"]⟩ : Access).value?
      [("input0", a), ("input1", b)] axes = some (b.elements.get [k, column]) := by
    apply value?_axes _ axes "input1" ["K", "J"] b [k, column] rfl
    · exact .cons atInner (.cons atColumn .nil)
    · rw [shape']
      exact ⟨inInner, inColumns, trivial⟩
  simp [Statement.term?, Statement.product?, statement, first, second]

include shape shape' in
theorem run?_statement : (statement inner).run? [("input0", a), ("input1", b)] [rows, columns] =
    some (product rows inner columns a b) := by
  -- `K` is the only axis that the output lacks, and it is declared.
  have extents : (statement inner).reducedExtents? [("input0", a), ("input1", b)]
      [rows, columns] = some [("K", inner)] := by
    have summed : (statement inner).reduced = ["K"] := by
      rfl
    have extent : ((statement inner).extents [("input0", a), ("input1", b)]
        [rows, columns]).lookup "K" = some inner := by
      simp [Statement.extents, statement, List.lookup_cons]
    rw [Statement.reducedExtents?, summed]
    simp [extent]
  have runs := Statement.run?_eq_some (statement inner) "input0" a [("input1", b)]
    [rows, columns] [("K", inner)] (contraction inner a b)
    rfl rfl rfl extents (fun assigns => by cases assigns) ?_
  · rw [runs, product_eq]
  · intro index inside
    obtain ⟨row, column, rfl⟩ := List.length_eq_two.mp (NDArray.inBounds_length _ _ inside)
    apply sum?_eq_some
    intro k below
    exact term?_statement rows inner columns a b shape shape' _ row column k inside.1 inside.2.1
      below rfl rfl rfl

end Running

end Dot

end OpGraph
