import OpGraph.Kernel.Affine
import OpGraph.Kernel.Fragment
import OpGraph.Kernel.Primitive
import OpGraph.Proofs.Reading.Call
import OpGraph.Proofs.Rendering

/-!
# Texts without placeholders

A placeholder begins with `@`, so a text without this character has none. A text is of this kind
as soon as its parts are, and numerals, names of axes, primitives and plans are. The one `@` that
a fragment writes stands before its plan; a colon follows it, so it begins no placeholder
(`Fragment.isComplete_indexed`).
-/
namespace OpGraph

namespace Template

def IsUnmarked (text : String) : Prop :=
  '@' ∉ text.toList

instance (text : String) : Decidable (IsUnmarked text) :=
  inferInstanceAs (Decidable ('@' ∉ text.toList))

@[simp] theorem isUnmarked_append (front back : String) :
    IsUnmarked (front ++ back) ↔ IsUnmarked front ∧ IsUnmarked back := by
  simp [IsUnmarked]

theorem isUnmarked_intercalate {separator : String} (apart : IsUnmarked separator)
    {texts : List String} (each : ∀ text ∈ texts, IsUnmarked text) :
    IsUnmarked (separator.intercalate texts) := by
  induction texts with
  | nil => simp [IsUnmarked]
  | cons text texts ih =>
    have here := each text List.mem_cons_self
    have later := ih fun other member => each other (List.mem_cons_of_mem _ member)
    cases texts with
    | nil => simpa using here
    | cons next texts =>
      rw [String.intercalate_cons_cons, isUnmarked_append, isUnmarked_append]
      exact ⟨⟨here, apart⟩, later⟩

theorem isUnmarked_commaList {texts : List String} (each : ∀ text ∈ texts, IsUnmarked text) :
    IsUnmarked (Text.commaList texts) :=
  isUnmarked_intercalate (by decide) each

theorem isUnmarked_bracketed {texts : List String} (each : ∀ text ∈ texts, IsUnmarked text) :
    IsUnmarked (Text.bracketed texts) := by
  rw [Text.bracketed, isUnmarked_append, isUnmarked_append]
  exact ⟨⟨by decide, isUnmarked_commaList each⟩, by decide⟩

/-! ### Numerals and names -/

@[simp] theorem isUnmarked_repr (n : Nat) : IsUnmarked (Nat.repr n) := by
  intro marked
  have digit := Reading.toList_repr_digits n '@' marked
  revert digit
  decide

@[simp] theorem isUnmarked_toString (n : Int) : IsUnmarked (toString n) := by
  cases n with
  | ofNat n => exact isUnmarked_repr n
  | negSucc n =>
    change IsUnmarked ("-" ++ Nat.repr (n + 1))
    rw [isUnmarked_append]
    exact ⟨by decide, isUnmarked_repr _⟩

@[simp] theorem isUnmarked_integerList (values : List Int) : IsUnmarked (integerList values) := by
  apply isUnmarked_bracketed
  intro text member
  obtain ⟨n, -, rfl⟩ := List.mem_map.mp member
  exact isUnmarked_toString n

theorem isUnmarked_axes (stem : String) (unmarked : IsUnmarked stem) (rank : Nat) :
    ∀ name ∈ Affine.axes stem rank, IsUnmarked name := by
  intro name member
  obtain ⟨axis, -, rfl⟩ := List.mem_map.mp member
  exact (isUnmarked_append _ _).mpr ⟨unmarked, isUnmarked_repr axis⟩

theorem isUnmarked_layout {indices : List String} (each : ∀ index ∈ indices, IsUnmarked index) :
    IsUnmarked (Affine.layout indices) :=
  isUnmarked_bracketed each

/-- A sum of scaled axes. -/
theorem isUnmarked_index (offset : Int) {terms : List (String × Value)}
    (plain : ∀ term ∈ terms, IsUnmarked term.1 ∧ ∃ scale : Int, term.2 = .int scale) :
    IsUnmarked (Affine.indexText (.int offset) terms) := by
  have each : ∀ term ∈ terms, IsUnmarked (Affine.termText term.1 term.2) := by
    intro term member
    obtain ⟨axis, scale, factor⟩ := plain term member
    rw [factor, Affine.termText]
    split
    · exact axis
    · rw [isUnmarked_append, isUnmarked_append]
      exact ⟨⟨axis, by decide⟩, isUnmarked_toString scale⟩
  have first : ∀ text ∈ if (Value.int offset).equalsInt 0 then [] else [(Value.int offset).display],
      IsUnmarked text := by
    split
    · simp
    · rw [List.forall_mem_singleton]
      exact isUnmarked_toString offset
  have parts := List.forall_mem_append.mpr ⟨first, List.forall_mem_map.mpr each⟩
  unfold Affine.indexText
  generalize _ ++ terms.map _ = texts at parts ⊢
  cases texts with
  | nil => exact (by decide : IsUnmarked "0")
  | cons text texts => exact isUnmarked_intercalate (by decide) parts

@[simp] theorem isUnmarked_primitive (primitive : Primitive) : IsUnmarked primitive.name := by
  cases primitive <;> decide

@[simp] theorem isUnmarked_plan (plan : ExecutionPlan) : IsUnmarked plan.name := by
  cases plan <;> decide

/-- The text of a call whose names hold no `@`. -/
theorem isUnmarked_call {call : Reading.Call} (inputs : ∀ input ∈ call.inputs, IsUnmarked input.1)
    (primitive : IsUnmarked call.primitive)
    (arguments : ∀ argument ∈ call.arguments, IsUnmarked argument.text) :
    IsUnmarked call.text := by
  have output : IsUnmarked call.outputText := by
    have list : IsUnmarked (Text.commaList (call.arguments.map Reading.Argument.text)) :=
      isUnmarked_commaList (List.forall_mem_map.mpr arguments)
    unfold Reading.Call.outputText
    simp only [isUnmarked_append, isUnmarked_integerList, primitive, list, and_true]
    decide
  have declared : ∀ text ∈ call.inputs.map Reading.inputText, IsUnmarked text := by
    refine List.forall_mem_map.mpr fun input member => ?_
    unfold Reading.inputText
    simp only [isUnmarked_append, isUnmarked_integerList, inputs input member, and_true]
    decide
  rw [Reading.Call.text, isUnmarked_append]
  refine ⟨by decide, isUnmarked_intercalate (by decide) ?_⟩
  rw [List.forall_mem_append, List.forall_mem_cons, List.forall_mem_singleton]
  exact ⟨declared, output, by decide⟩

/-! ### Placeholders -/

private theorem keys_scan_text (text rest : List Char) (plain : '@' ∉ text) :
    (scan (text ++ rest)).filterMap keyOf? = (scan rest).filterMap keyOf? := by
  rw [scan_text text rest plain, List.filterMap_append, List.filterMap_map]
  simp [Function.comp_def, keyOf?]

private theorem keys_scan_unmarked (text : List Char) (plain : '@' ∉ text) :
    (scan text).filterMap keyOf? = [] := by
  have all := keys_scan_text text [] plain
  rw [List.append_nil] at all
  rw [all, scan.eq_def]
  rfl

/-- An `@` that no key follows begins no placeholder. -/
private theorem scan_stray (c : Char) (rest : List Char) (stray : isKeyStart c = false) :
    scan ('@' :: c :: rest) = .char '@' :: scan (c :: rest) := by
  apply scan_unread
  rw [readKey?, stray, if_neg (by decide)]

theorem IsUnmarked.keys {text : String} (unmarked : IsUnmarked text) : keys text = [] := by
  rw [Template.keys, keys_scan_unmarked text.toList unmarked]
  rfl

/-- Two texts around an `@` hold no placeholder where the second does not continue a key. -/
theorem keys_around {front back : String} {c : Char} {rest : List Char}
    (unmarked : IsUnmarked front) (unmarked' : IsUnmarked back) (begins : back.toList = c :: rest)
    (stray : isKeyStart c = false) : keys (front ++ "@" ++ back) = [] := by
  have whole : (front ++ "@" ++ back).toList = front.toList ++ '@' :: c :: rest := by
    simp [begins]
  rw [IsUnmarked, begins] at unmarked'
  rw [Template.keys, whole, keys_scan_text _ _ unmarked, scan_stray c rest stray,
    List.filterMap_cons, keyOf?]
  simp only [keys_scan_unmarked _ unmarked']
  rfl

end Template

namespace Fragment

/-- No placeholder is left in what a fragment is written as, with its plan or without. -/
structure IsComplete (fragment : Fragment) : Prop where
  code : Template.keys fragment.code = []
  text : Template.keys fragment.text = []

theorem isComplete_direct {code : String} (unmarked : Template.IsUnmarked code) :
    (direct code).IsComplete := by
  refine ⟨unmarked.keys, ?_⟩
  rw [text, show (direct code).planRule = "" from rfl, String.append_empty]
  exact unmarked.keys

theorem isComplete_indexed {code : String} (unmarked : Template.IsUnmarked code)
    (plan : ExecutionPlan) : (indexed code plan.name).IsComplete := by
  refine ⟨unmarked.keys, ?_⟩
  have front : Template.IsUnmarked (code ++ " ## ") :=
    (Template.isUnmarked_append _ _).mpr ⟨unmarked, by decide⟩
  have back : Template.IsUnmarked (": plan/" ++ plan.name ++ " ") := by
    simp only [Template.isUnmarked_append, Template.isUnmarked_plan]
    decide
  -- The rule of the plan has an `@` of its own, with a colon behind it.
  have begins : (": plan/" ++ plan.name ++ " ").toList =
      ':' :: (" plan/" ++ plan.name ++ " ").toList := by
    simp
  have rule : " ## @: plan/" = " ## " ++ "@" ++ ": plan/" := rfl
  have around := Template.keys_around front back begins (by decide)
  simpa only [text, planRule, indexed, rule, String.append_assoc] using around

end Fragment

end OpGraph
