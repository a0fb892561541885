import Mathlib.Data.List.DropRight
import OpGraph.Text.Blank
import OpGraph.Text.Fields

/-!
# Trimming and splitting

Trimming takes away what is blank at both ends and nothing else (`trim_padded`), so it does nothing
the second time. The pieces of a text are the one list of texts without commas that gives the text
back when commas are put between them (`arePieces_iff`).
-/
namespace OpGraph.Text

/-! ### Trimming -/

section Ends

variable {p : Char → Bool} {before core after : List Char}

/-- Taking what satisfies `p` from both ends of a text, whose core begins and ends with something
else. -/
theorem dropEnds_padded (left : ∀ c ∈ before, p c = true) (right : ∀ c ∈ after, p c = true)
    (start : ∀ c ∈ core.head?, p c = false) (stop : ∀ c ∈ core.getLast?, p c = false) :
    ((before ++ core ++ after).dropWhile p).rdropWhile p = core := by
  have ends : (core ++ after).rdropWhile p = core := by
    have reversed : ∀ c ∈ after.reverse, p c = true := by simpa using right
    rw [List.rdropWhile, List.reverse_append, List.dropWhile_append_of_pos reversed]
    refine List.rdropWhile_eq_self_iff.mpr fun nonempty => ?_
    simpa using stop _ (List.getLast?_eq_some_getLast nonempty)
  rw [List.append_assoc, List.dropWhile_append_of_pos left]
  -- Around an empty core the left end takes everything, and the right end finds nothing.
  cases core with
  | nil =>
    have blank : ∀ c ∈ after.dropWhile p, p c = true := fun c among =>
      right c ((List.dropWhile_suffix p).mem among)
    exact List.rdropWhile_eq_nil_iff.mpr blank
  | cons c core =>
    have first : ¬p c = true := by simp [start c rfl]
    rw [List.cons_append, List.dropWhile_cons_of_neg first]
    exact ends

theorem dropEnds_idempotent (cs : List Char) :
    (((cs.dropWhile p).rdropWhile p).dropWhile p).rdropWhile p = (cs.dropWhile p).rdropWhile p := by
  have kept := @dropEnds_padded p [] ((cs.dropWhile p).rdropWhile p) [] nofun nofun
  simp only [List.nil_append, List.append_nil] at kept
  refine kept (fun c first => ?_) (fun c last => ?_)
  · -- What is left begins as it did before its end was taken away.
    obtain ⟨rest, whole⟩ := List.rdropWhile_prefix p (l := cs.dropWhile p)
    have first' : (cs.dropWhile p).head? = some c := by
      rw [← whole, List.head?_append_of_ne_nil]
      · exact first
      · rintro empty
        simp [empty] at first
    have dropped := List.head?_dropWhile_not p cs
    rw [first'] at dropped
    simpa using dropped
  · have nonempty : (cs.dropWhile p).rdropWhile p ≠ [] := by
      rintro empty
      simp [empty] at last
    rw [List.getLast?_eq_some_getLast nonempty, Option.mem_some_iff] at last
    simpa [last] using List.rdropWhile_last_not p (cs.dropWhile p) nonempty

end Ends

theorem trim_eq (cs : List Char) : trim cs = (cs.dropWhile isBlank).rdropWhile isBlank :=
  rfl

theorem trim_trim (cs : List Char) : trim (trim cs) = trim cs := by
  simp only [trim_eq, dropEnds_idempotent]

/-- Blanks around a text that has none at its ends. -/
theorem trim_padded {before core after : List Char} (left : ∀ c ∈ before, isBlank c = true)
    (right : ∀ c ∈ after, isBlank c = true) (start : ∀ c ∈ core.head?, isBlank c = false)
    (stop : ∀ c ∈ core.getLast?, isBlank c = false) : trim (before ++ core ++ after) = core := by
  rw [trim_eq, dropEnds_padded left right start stop]

theorem strip_strip (text : String) : strip (strip text) = strip text := by
  rw [strip, strip, String.toList_ofList, trim_trim]

/-! ### Pieces between commas -/

/-- Texts without commas that make up a text with commas between them. -/
structure ArePieces (text : String) (pieces : List String) : Prop where
  nonempty : pieces ≠ []
  plain : ∀ piece ∈ pieces, ',' ∉ piece.toList
  joined : ",".intercalate pieces = text

theorem splitAtChar_eq_splitOn (separator : Char) (cs : List Char) :
    splitAtChar separator cs = cs.splitOn separator := by
  induction cs with
  | nil => rfl
  | cons c cs ih =>
    rw [splitAtChar, ih, List.splitOn_cons_eq_if_modifyHead]
    simp only [beq_iff_eq]
    split
    · rfl
    · cases pieces : cs.splitOn separator with
      | nil => exact absurd pieces (List.splitOn_ne_nil _ _)
      | cons piece others => rfl

theorem not_mem_of_splitAtChar {separator : Char} {cs piece : List Char}
    (among : piece ∈ splitAtChar separator cs) : separator ∉ piece := by
  induction cs generalizing piece with
  | nil =>
    rw [List.mem_singleton.mp among]
    exact List.not_mem_nil
  | cons c cs ih =>
    -- A character other than the separator goes to the front of the first piece.
    rw [splitAtChar] at among
    split at among
    · rcases List.mem_cons.mp among with rfl | later
      · exact List.not_mem_nil
      · exact ih later
    next other =>
      cases pieces : splitAtChar separator cs with
      | nil =>
        rw [pieces, List.mem_singleton] at among
        simpa [among] using Ne.symm other
      | cons first others =>
        rw [pieces] at among ih
        rcases List.mem_cons.mp among with rfl | later
        · exact List.not_mem_cons_of_ne_of_not_mem (Ne.symm other) (ih List.mem_cons_self)
        · exact ih (List.mem_cons_of_mem _ later)

theorem arePieces_iff {text : String} {pieces : List String} :
    ArePieces text pieces ↔ pieces = commaPieces text := by
  have toList (pieces : List String) :
      (",".intercalate pieces).toList = [','].intercalate (pieces.map String.toList) :=
    String.toList_intercalate
  constructor
  · rintro ⟨nonempty, plain, rfl⟩
    rw [commaPieces, splitAtChar_eq_splitOn, toList, List.splitOn_intercalate]
    · simp
    · simpa using plain
    · simpa using nonempty
  · rintro rfl
    refine ⟨?_, fun piece among => ?_, String.toList_injective ?_⟩
    · simp [commaPieces, splitAtChar_eq_splitOn, List.splitOn_ne_nil]
    · obtain ⟨cs, split, rfl⟩ := List.mem_map.mp among
      rw [String.toList_ofList]
      exact not_mem_of_splitAtChar split
    · rw [toList, commaPieces, splitAtChar_eq_splitOn]
      simp [List.intercalate_splitOn]

/-! ### Lists of texts -/

/-- A text that is not empty and has no blanks at its ends. -/
structure IsTight (text : String) : Prop where
  nonempty : text ≠ ""
  start : ∀ c ∈ text.toList.head?, isBlank c = false
  stop : ∀ c ∈ text.toList.getLast?, isBlank c = false

namespace IsTight

variable {text front back : String}

theorem of_forall (nonempty : text ≠ "") (each : ∀ c ∈ text.toList, isBlank c = false) :
    IsTight text :=
  ⟨nonempty, fun c first => each c (List.mem_of_mem_head? first),
    fun c last => each c (List.mem_of_mem_getLast? last)⟩

theorem strip_append (tight : IsTight text) (left : ∀ c ∈ front.toList, isBlank c = true) :
    strip (front ++ text) = text := by
  have trimmed := @trim_padded _ _ [] left nofun tight.start tight.stop
  rw [List.append_nil] at trimmed
  rw [strip, String.toList_append, trimmed, String.ofList_toList]

theorem strip_eq (tight : IsTight text) : strip text = text := by
  have stripped := @strip_append _ "" tight nofun
  rwa [String.empty_append] at stripped

theorem append (first : IsTight front) (middle : String) (last : IsTight back) :
    IsTight (front ++ middle ++ back) := by
  have frontNonempty : front.toList ≠ [] := mt String.toList_eq_nil_iff.mp first.nonempty
  have backNonempty : back.toList ≠ [] := mt String.toList_eq_nil_iff.mp last.nonempty
  refine ⟨?_, ?_, ?_⟩
  · rw [Ne, ← String.toList_eq_nil_iff, String.toList_append]
    exact List.append_ne_nil_of_right_ne_nil _ backNonempty
  · rw [String.toList_append, String.toList_append, List.append_assoc,
      List.head?_append_of_ne_nil _ frontNonempty]
    exact first.start
  · rw [String.toList_append, List.getLast?_append_of_ne_nil _ backNonempty]
    exact last.stop

end IsTight

/-- A list of texts has no blanks at its ends when none of its items has. -/
theorem isTight_commaList {text : String} {texts : List String}
    (each : ∀ item ∈ text :: texts, IsTight item) : IsTight (commaList (text :: texts)) := by
  induction texts generalizing text with
  | nil =>
    rw [commaList, String.intercalate_singleton]
    exact each text List.mem_cons_self
  | cons next texts ih =>
    rw [commaList, String.intercalate_cons_cons]
    obtain ⟨here, there⟩ := List.forall_mem_cons.mp each
    exact here.append ", " (ih there)

/-- Between the commas of a list stand its items, each but the first after a space. -/
theorem arePieces_commaList {text : String} {texts : List String}
    (plain : ∀ item ∈ text :: texts, ',' ∉ item.toList) :
    ArePieces (commaList (text :: texts)) (text :: texts.map (" " ++ ·)) := by
  refine ⟨List.cons_ne_nil _ _, ?_, ?_⟩
  · obtain ⟨here, there⟩ := List.forall_mem_cons.mp plain
    refine List.forall_mem_cons.mpr ⟨here, List.forall_mem_map.mpr fun item among => ?_⟩
    rw [String.toList_append]
    exact List.not_mem_append (by decide) (there item among)
  · clear plain
    induction texts generalizing text with
    | nil => simp only [commaList, List.map_nil, String.intercalate_singleton]
    | cons next texts ih =>
      -- The space after a comma belongs to the item that follows.
      have shifted : ",".intercalate ((" " ++ next) :: texts.map (" " ++ ·)) =
          " " ++ ",".intercalate (next :: texts.map (" " ++ ·)) := by
        cases texts <;> simp [String.intercalate_cons_cons, String.append_assoc]
      rw [List.map_cons, String.intercalate_cons_cons, shifted, ih, commaList, commaList,
        String.intercalate_cons_cons]
      simp only [String.append_assoc]
      rfl

end OpGraph.Text
