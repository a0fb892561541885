import OpGraph.Proofs.Writing
import OpGraph.Proofs.Shape

/-!
# Rendering

A rendering succeeds just when every key has a value (`render_eq_ok`), and a failure names those that
have none (`render_eq_error`).

A template is written as a list of segments: texts without `@` and the placeholders between
them. Main statement: scanning a template gives back its segments, so a rendering fills each
placeholder with the value of its key and leaves the texts as they are (`render_written`).
-/
namespace OpGraph

namespace Template

inductive Segment where
  | text (characters : String)
  | hole (key : String)
  deriving DecidableEq

namespace Segment

def written : Segment → String
  | text characters => characters
  | hole key => "@" ++ key ++ "@"

def filled (value? : String → Option String) : Segment → String
  | text characters => characters
  | hole key => (value? key).getD ""

def pieces : Segment → List Piece
  | text characters => characters.toList.map .char
  | hole key => [.key key.toList]

/-- A text holds no placeholder and a placeholder has a key. -/
def IsProper : Segment → Prop
  | text characters => '@' ∉ characters.toList
  | hole key => isKey key.toList = true

instance : (segment : Segment) → Decidable segment.IsProper
  | text characters => inferInstanceAs (Decidable ('@' ∉ characters.toList))
  | hole key => inferInstanceAs (Decidable (isKey key.toList = true))

def known (value? : String → Option String) : Segment → Prop
  | text _ => True
  | hole key => (value? key).isSome = true

end Segment

/-- The template that segments are written as. -/
def written : List Segment → String
  | [] => ""
  | segment :: segments => segment.written ++ written segments

def filled (value? : String → Option String) : List Segment → String
  | [] => ""
  | segment :: segments => segment.filled value? ++ filled value? segments

theorem written_append (front back : List Segment) :
    written (front ++ back) = written front ++ written back := by
  induction front with
  | nil => simp [written]
  | cons segment front ih => rw [List.cons_append, written, written, ih, String.append_assoc]

/-! ### Scanning -/

theorem scan_plain (c : Char) (cs : List Char) (plain : c ≠ '@') :
    scan (c :: cs) = .char c :: scan cs := by
  rw [scan.eq_def]
  simp [plain]

theorem scan_text (text rest : List Char) (plain : '@' ∉ text) :
    scan (text ++ rest) = text.map .char ++ scan rest := by
  induction text with
  | nil => rfl
  | cons c cs ih =>
    rw [List.mem_cons, not_or] at plain
    rw [List.cons_append, scan_plain c _ (Ne.symm plain.1), ih plain.2]
    rfl

theorem isKeyChar_ne_marker (c : Char) (inKey : isKeyChar c = true) : c ≠ '@' := by
  rintro rfl
  revert inKey
  decide

theorem readKeyRest_key (key rest : List Char) (valid : ∀ c ∈ key, isKeyChar c = true) :
    readKeyRest (key ++ '@' :: rest) = some (key, rest) := by
  induction key with
  | nil => rfl
  | cons c cs ih =>
    have inKey : isKeyChar c = true := valid c (by simp)
    have later := ih fun d member => valid d (by simp [member])
    simp [readKeyRest, isKeyChar_ne_marker c inKey, inKey, later]

theorem readKey?_key (key rest : List Char) (valid : isKey key = true) :
    readKey? (key ++ '@' :: rest) = some (key, rest) := by
  cases key with
  | nil => cases valid
  | cons c cs =>
    rw [isKey, Bool.and_eq_true, List.all_eq_true] at valid
    simp [readKey?, valid.1, readKeyRest_key cs rest valid.2]

theorem scan_hole (key rest : List Char) (valid : isKey key = true) :
    scan ('@' :: (key ++ '@' :: rest)) = .key key :: scan rest := by
  rw [scan.eq_def]
  have found := readKey?_key key rest valid
  simp only [if_true]
  split
  next read =>
    rw [found] at read
    cases read
    rfl
  next read =>
    rw [found] at read
    cases read

/-- An `@` that begins no placeholder is a character like any other. -/
theorem scan_unread (rest : List Char) (unread : readKey? rest = none) :
    scan ('@' :: rest) = .char '@' :: scan rest := by
  rw [scan.eq_def]
  simp only [if_true]
  split
  next found =>
    rw [unread] at found
    cases found
  next => rfl

theorem scan_written (segments : List Segment) (proper : ∀ s ∈ segments, s.IsProper) :
    scan (written segments).toList = segments.flatMap Segment.pieces := by
  induction segments with
  | nil => rw [written, String.toList_empty, scan.eq_def, List.flatMap_nil]
  | cons segment segments ih =>
    have later := ih fun s member => proper s (by simp [member])
    have here : segment.IsProper := proper segment (by simp)
    rw [List.flatMap_cons, ← later, written, String.toList_append]
    cases segment with
    | text characters => exact scan_text _ _ here
    | hole key =>
      simp only [Segment.written, String.toList_append, List.append_assoc]
      exact scan_hole key.toList _ here

/-! ### Rendering -/

theorem keyOf?_eq_some {key : String} (piece : Piece) :
    keyOf? piece = some key ↔ piece = .key key.toList := by
  cases piece with
  | char c => simp [keyOf?]
  | key name =>
    rw [keyOf?, Option.some.injEq, Piece.key.injEq]
    exact ⟨fun same => same ▸ String.toList_ofList.symm, fun same => same ▸ String.ofList_toList⟩

theorem mem_keys {text key : String} : key ∈ keys text ↔ .key key.toList ∈ scan text.toList := by
  rw [keys, List.mem_eraseDups, List.mem_filterMap]
  simp only [keyOf?_eq_some, exists_eq_right]

theorem mem_keys_of_scan {text : String} {name : List Char}
    (among : .key name ∈ scan text.toList) : String.ofList name ∈ keys text :=
  mem_keys.mpr (by rwa [String.toList_ofList])

section Rendering

variable {text : String} {value? : String → Option String}

private theorem missing_eq_nil :
    ((keys text).filter fun key => (value? key).isNone) = [] ↔
      ∀ key ∈ keys text, (value? key).isSome = true := by
  simp [List.filter_eq_nil_iff, Option.isSome_iff_ne_none]

theorem render_eq_ok {result : String} :
    render text value? = .ok result ↔
      (∀ key ∈ keys text, (value? key).isSome = true) ∧
        result = String.ofList ((scan text.toList).flatMap (expand value?)) := by
  rw [← missing_eq_nil, render]
  split
  next all => simp [all, eq_comm]
  next missing => exact ⟨nofun, fun all => (missing all.1).elim⟩

theorem render_eq_error {failure : Failure} :
    render text value? = .error failure ↔
      (∃ key ∈ keys text, value? key = none) ∧
        failure = .missingKeys ((keys text).filter fun key => (value? key).isNone) text := by
  have missing : (∃ key ∈ keys text, value? key = none) ↔
      ¬((keys text).filter fun key => (value? key).isNone) = [] := by
    simp [List.filter_eq_nil_iff]
  rw [missing, render]
  split
  next all => simp [all]
  next missing =>
    rw [Except.error.injEq, eq_comm]
    exact ⟨fun same => ⟨missing, same⟩, fun all => all.2⟩

/-- What else a map holds does not matter. -/
theorem render_congr {other? : String → Option String}
    (same : ∀ key ∈ keys text, other? key = value? key) :
    render text other? = render text value? := by
  have missing : ((keys text).filter fun key => (other? key).isNone) =
      (keys text).filter fun key => (value? key).isNone :=
    List.filter_congr fun key member => by rw [same key member]
  have filled : (scan text.toList).flatMap (expand other?) =
      (scan text.toList).flatMap (expand value?) := by
    refine List.flatMap_congr fun piece among => ?_
    cases piece with
    | char c => rfl
    | key name =>
      have member := mem_keys_of_scan among
      rw [expand, expand, same _ member]
  rw [render, render, missing, filled]

end Rendering

variable (value? : String → Option String)

theorem filled_append (front back : List Segment) :
    filled value? (front ++ back) = filled value? front ++ filled value? back := by
  induction front with
  | nil => simp [filled]
  | cons segment front ih => rw [List.cons_append, filled, filled, ih, String.append_assoc]

theorem toList_filled (segments : List Segment) :
    (segments.flatMap Segment.pieces).flatMap (expand value?) =
      (filled value? segments).toList := by
  induction segments with
  | nil => rfl
  | cons segment segments ih =>
    rw [List.flatMap_cons, List.flatMap_append, ih, filled, String.toList_append]
    congr 1
    cases segment with
    | text characters => simp [Segment.pieces, Segment.filled, expand, List.flatMap_map]
    | hole key => simp [Segment.pieces, Segment.filled, expand]

theorem keys_written (segments : List Segment) (proper : ∀ s ∈ segments, s.IsProper)
    (key : String) (member : key ∈ keys (written segments)) : .hole key ∈ segments := by
  rw [mem_keys, scan_written segments proper] at member
  obtain ⟨segment, inSegments, inPieces⟩ := List.mem_flatMap.mp member
  cases segment with
  | text characters =>
    obtain ⟨c, -, same⟩ := List.mem_map.mp inPieces
    cases same
  | hole name =>
    rw [Segment.pieces, List.mem_singleton, Piece.key.injEq, String.toList_inj] at inPieces
    rwa [inPieces]

/-- A template with proper segments is filled as soon as all keys have values. -/
theorem render_written (segments : List Segment) (proper : ∀ s ∈ segments, s.IsProper)
    (known : ∀ s ∈ segments, s.known value?) :
    render (written segments) value? = .ok (filled value? segments) := by
  refine render_eq_ok.mpr ⟨fun key member => known _ (keys_written segments proper key member), ?_⟩
  rw [scan_written segments proper, toList_filled, String.ofList_toList]

end Template

namespace Substitutions

theorem set_eq (subs : Substitutions) (key value : String)
    (valid : Template.isKey key.toList = true) :
    subs.set key value = .ok ⟨insert key value subs.entries⟩ :=
  if_pos valid

/-- A key that was set has its new value, and the others keep theirs. -/
@[simp] theorem get?_insert (entries : List (String × String)) (key value other : String) :
    get? ⟨insert key value entries⟩ other =
      if other = key then some value else get? ⟨entries⟩ other := by
  unfold get?
  induction entries with
  | nil =>
    by_cases same : other = key
    · simp [insert, same]
    · have skip : (other == key) = false := by simpa using same
      simp [insert, List.lookup_cons, same, skip]
  | cons entry entries ih =>
    obtain ⟨first, held⟩ := entry
    by_cases set : first = key
    · by_cases same : other = key
      · simp [insert, set, same]
      · have skip : (other == key) = false := by simpa using same
        simp [insert, List.lookup_cons, set, same, skip]
    · by_cases found : other = first
      · simp [insert, set, found]
      · have skip : (other == first) = false := by simpa using found
        simpa [insert, List.lookup_cons, set, skip] using ih

theorem setText_eq (subs : Substitutions) (key value : String)
    (valid : Template.isKey key.toList = true) :
    subs.setText key (.text value) = .ok ⟨insert key value subs.entries⟩ :=
  set_eq subs key value valid

/-- A setter that writes a number sets its key as long as the number is short. -/
theorem assign_of_writes {subs : Substitutions} {key text : String} {setting : Setting}
    {short : Bool} (valid : Template.isKey key.toList = true)
    (writes : setting.write key subs = writeWhen short text) (all : short = true) :
    subs.assign key setting = .ok ⟨insert key text subs.entries⟩ := by
  rw [assign, writes, writeWhen_of_short text all, Outcome.ok_bind, set_eq subs key _ valid]

theorem setInteger_eq (subs : Substitutions) (key : String) (value : Int)
    (valid : Template.isKey key.toList = true) (short : Text.isShort value = true) :
    subs.setInteger key (.int value) = .ok ⟨insert key (toString value) subs.entries⟩ :=
  assign_of_writes valid rfl short

theorem setInteger_eq_ok {subs after : Substitutions} (key : String) {value : Value}
    (valid : Template.isKey key.toList = true) :
    subs.setInteger key value = .ok after ↔
      ∃ n, value = .int n ∧ Text.isShort n = true ∧
        after = ⟨insert key (toString n) subs.entries⟩ := by
  cases value with
  | int n =>
    cases short : Text.isShort n with
    | true =>
      rw [setInteger_eq subs key n valid short, Except.ok.injEq]
      exact ⟨fun same => ⟨n, rfl, short, same.symm⟩, fun ⟨_, same, _, set⟩ => by
        cases same
        exact set.symm⟩
    | false =>
      have long : writeInteger n = .error .numberTooLong := writeWhen_of_long _ short
      simp [setInteger, assign, Setting.write, long, short]
  | _ => simp [setInteger, assign, Setting.write]

theorem setShape_eq (subs : Substitutions) (key : String) (lengths : List Nat)
    (valid : Template.isKey key.toList = true)
    (short : (Shape.ofLengths lengths).isShort = true) :
    subs.setShape key (.ofLengths lengths) =
      .ok ⟨insert key (integerList (lengths.map Int.ofNat)) subs.entries⟩ := by
  have writes : (Setting.shape (.ofLengths lengths)).write key subs =
      writeWhen ((lengths.map Int.ofNat).all Text.isShort) (integerList (lengths.map Int.ofNat)) := by
    rw [Setting.write, Shape.toLengths_ofLengths, Outcome.ok_bind, writeIntegers_eq]
  refine assign_of_writes valid writes ?_
  rw [List.all_map]
  exact (Shape.isShort_ofLengths lengths).symm.trans short

theorem setInts_eq (subs : Substitutions) (key : String) (values : List Int)
    (valid : Template.isKey key.toList = true) (short : values.all Text.isShort = true) :
    subs.setInts key (.tuple (values.map .int)) =
      .ok ⟨insert key (integerList values) subs.entries⟩ :=
  assign_of_writes valid (vectorText_ints values) short

end Substitutions

end OpGraph
