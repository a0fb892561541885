import OpGraph.Proofs.Rendering
import OpGraph.Proofs.Repetition

/-!
# Scanning templates

Every text has exactly one split into placeholders and literal characters in which no placeholder
begins at a literal character (`IsSplit`), and it is the one that scanning finds
(`isSplit_iff`). So the keys of a template and its renderings, successful or not, are told by this
split (`splits_uniquely`).
-/
namespace OpGraph.Template

/-- What a piece stands for in its text. -/
def Piece.spelling : Piece → List Char
  | char c => [c]
  | key name => '@' :: (name ++ ['@'])

def spelling (pieces : List Piece) : List Char :=
  pieces.flatMap Piece.spelling

/-- A text begins with a placeholder. -/
def BeginsPlaceholder (text : List Char) : Prop :=
  ∃ name rest, isKey name = true ∧ text = '@' :: (name ++ '@' :: rest)

/-- The pieces of a text, one after the other, where a placeholder is taken as soon as it begins. -/
structure IsSplit (text : List Char) (pieces : List Piece) : Prop where
  spelled : spelling pieces = text
  named : ∀ name, .key name ∈ pieces → isKey name = true
  leftmost : ∀ front c back, pieces = front ++ .char c :: back →
    ¬BeginsPlaceholder (c :: spelling back)

/-- The keys of the placeholders, each once, in the order in which they first occur. -/
structure IsKeyList (pieces : List Piece) (keys : List String) : Prop where
  nodup : keys.Nodup
  mem : ∀ key : String, key ∈ keys ↔ .key key.toList ∈ pieces
  ordered : keys.Pairwise fun a b => pieces.idxOf (.key a.toList) < pieces.idxOf (.key b.toList)

/-! ### The split of a text -/

theorem spelling_cons (piece : Piece) (pieces : List Piece) :
    spelling (piece :: pieces) = piece.spelling ++ spelling pieces :=
  List.flatMap_cons

theorem readKeyRest_eq_some {text name rest : List Char}
    (read : readKeyRest text = some (name, rest)) :
    (∀ c ∈ name, isKeyChar c = true) ∧ text = name ++ '@' :: rest := by
  induction text generalizing name with
  | nil => cases read
  | cons c cs ih =>
    rw [readKeyRest] at read
    split at read
    next marker =>
      cases read
      simp [marker]
    · split at read
      next inKey =>
        obtain ⟨⟨name', rest'⟩, read', same⟩ := Option.map_eq_some_iff.mp read
        cases same
        obtain ⟨valid, rfl⟩ := ih read'
        exact ⟨List.forall_mem_cons.mpr ⟨inKey, valid⟩, rfl⟩
      · cases read

theorem readKey?_eq_some {text name rest : List Char} (read : readKey? text = some (name, rest)) :
    isKey name = true ∧ text = name ++ '@' :: rest := by
  cases text with
  | nil => cases read
  | cons c cs =>
    rw [readKey?] at read
    split at read
    next start =>
      obtain ⟨⟨name', rest'⟩, read', same⟩ := Option.map_eq_some_iff.mp read
      cases same
      obtain ⟨valid, rfl⟩ := readKeyRest_eq_some read'
      exact ⟨by simpa [isKey, start] using valid, rfl⟩
    · cases read

theorem beginsPlaceholder_iff {rest : List Char} :
    BeginsPlaceholder ('@' :: rest) ↔ (readKey? rest).isSome = true := by
  constructor
  · rintro ⟨name, later, valid, same⟩
    rw [List.tail_eq_of_cons_eq same, readKey?_key name later valid]
    rfl
  · intro read
    obtain ⟨⟨name, later⟩, found⟩ := Option.isSome_iff_exists.mp read
    obtain ⟨valid, rfl⟩ := readKey?_eq_some found
    exact ⟨name, later, valid, rfl⟩

theorem not_beginsPlaceholder_of_ne {c : Char} (plain : c ≠ '@') (rest : List Char) :
    ¬BeginsPlaceholder (c :: rest) := by
  rintro ⟨name, later, -, same⟩
  exact plain (List.head_eq_of_cons_eq same)

namespace IsSplit

variable {text : List Char} {pieces : List Piece}

theorem nil : IsSplit [] [] where
  spelled := rfl
  named := by simp
  leftmost := by simp

theorem char {c : Char} (none : ¬BeginsPlaceholder (c :: text)) (rest : IsSplit text pieces) :
    IsSplit (c :: text) (.char c :: pieces) where
  spelled := by rw [spelling_cons, rest.spelled]; rfl
  named name member := rest.named name (by simpa using member)
  leftmost front c' back same := by
    rcases List.cons_eq_append_iff.mp same with ⟨rfl, here⟩ | ⟨front', rfl, later⟩
    · cases here
      rwa [rest.spelled]
    · exact rest.leftmost front' c' back later

theorem key {name : List Char} (valid : isKey name = true) (rest : IsSplit text pieces) :
    IsSplit ('@' :: (name ++ '@' :: text)) (.key name :: pieces) where
  spelled := by simp [spelling_cons, Piece.spelling, rest.spelled]
  named name' member := by
    rcases List.mem_cons.mp member with same | later
    · cases same
      exact valid
    · exact rest.named name' later
  leftmost front c back same := by
    rcases List.cons_eq_append_iff.mp same with ⟨rfl, here⟩ | ⟨front', rfl, later⟩
    · cases here
    · exact rest.leftmost front' c back later

theorem tail {piece : Piece} (split : IsSplit text (piece :: pieces)) :
    IsSplit (spelling pieces) pieces where
  spelled := rfl
  named name member := split.named name (List.mem_cons_of_mem _ member)
  leftmost front c back same := split.leftmost (piece :: front) c back (by rw [same]; rfl)

/-- Scanning takes the same decision at every piece. -/
theorem scan_eq (split : IsSplit text pieces) : scan text = pieces := by
  induction pieces generalizing text with
  | nil =>
    rw [← split.spelled]
    simp [spelling, scan]
  | cons piece pieces ih =>
    have later := ih split.tail
    rw [← split.spelled, spelling_cons]
    cases piece with
    | char c =>
      -- No placeholder begins here, so a marker is passed over like any other character.
      have none := split.leftmost [] c pieces rfl
      simp only [Piece.spelling, List.singleton_append]
      by_cases marker : c = '@'
      · subst marker
        rw [beginsPlaceholder_iff, Option.not_isSome_iff_eq_none] at none
        rw [scan_unread _ none, later]
      · rw [scan_plain c _ marker, later]
    | key name =>
      have valid := split.named name List.mem_cons_self
      simp only [Piece.spelling, List.cons_append, List.append_assoc, List.nil_append]
      rw [scan_hole name _ valid, later]

end IsSplit

theorem isSplit_scan (text : List Char) : IsSplit text (scan text) := by
  induction text using scan.induct with
  | case1 =>
    rw [scan]
    exact .nil
  | case2 cs name rest found ih =>
    obtain ⟨valid, rfl⟩ := readKey?_eq_some found
    rw [scan_hole name rest valid]
    exact .key valid ih
  | case3 cs unread ih =>
    rw [scan_unread cs unread]
    exact .char (by simp [beginsPlaceholder_iff, unread]) ih
  | case4 c cs plain ih =>
    rw [scan_plain c cs plain]
    exact .char (not_beginsPlaceholder_of_ne plain cs) ih

theorem isSplit_iff {text : List Char} {pieces : List Piece} :
    IsSplit text pieces ↔ pieces = scan text :=
  ⟨fun split => split.scan_eq.symm, fun same => same ▸ isSplit_scan text⟩

/-! ### Keys and renderings -/

theorem isKeyList_keys (text : String) : IsKeyList (scan text.toList) (keys text) where
  nodup := Repetition.nodup_eraseDups _
  mem _ := mem_keys
  ordered := (Repetition.pairwise_idxOf_eraseDups _).imp fun before =>
    Repetition.idxOf_lt_of_filterMap keyOf?_eq_some keyOf?_eq_some before

/-- A text is rendered as it is where each key stands for its placeholder. -/
theorem render_placeholders {text : String} {value? : String → Option String}
    (same : ∀ key ∈ keys text, value? key = some ("@" ++ key ++ "@")) :
    render text value? = .ok text := by
  refine render_eq_ok.mpr ⟨fun key member => by rw [same key member]; rfl, ?_⟩
  have spelled : (scan text.toList).flatMap (expand value?) = spelling (scan text.toList) := by
    refine List.flatMap_congr fun piece among => ?_
    cases piece with
    | char c => rfl
    | key name => simp [expand, same _ (mem_keys_of_scan among), Piece.spelling]
  rw [spelled, (isSplit_scan text.toList).spelled, String.ofList_toList]

/-- A text has one split into pieces. Its keys are those of the placeholders among them, and a
rendering replaces these and nothing else, by values that are not read again; it fails just when a
key has no value, and names those that have none. -/
theorem splits_uniquely (text : String) :
    ∃ pieces, (∀ pieces', IsSplit text.toList pieces' ↔ pieces' = pieces) ∧
      IsKeyList pieces (keys text) ∧
      (∀ value? : String → Option String,
        (∀ failure, render text value? = .error failure ↔
          (∃ key ∈ keys text, value? key = none) ∧
            failure = .missingKeys ((keys text).filter fun key => (value? key).isNone) text) ∧
        ((∀ key ∈ keys text, (value? key).isSome = true) →
          render text value? = .ok (String.ofList (pieces.flatMap (expand value?)))) ∧
        ∀ other? : String → Option String, (∀ key ∈ keys text, other? key = value? key) →
          render text other? = render text value?) ∧
      render text (fun key => some ("@" ++ key ++ "@")) = .ok text := by
  refine ⟨scan text.toList, fun _ => isSplit_iff, isKeyList_keys text, fun value? => ?_,
    render_placeholders fun _ _ => rfl⟩
  exact ⟨fun _ => render_eq_error, fun covered => render_eq_ok.mpr ⟨covered, rfl⟩,
    fun _ => render_congr⟩

/-- The second placeholder ends with the marker that a third one would begin with. The value of the
first one is a placeholder itself, which stays, and the map has a value for what is no key. -/
theorem splits_uniquely_shared :
    let map : List (String × String) := [("b", "2"), ("c", "1"), ("a", "@b@")]
    IsSplit "@a@b@c@".toList [.key ['a'], .char 'b', .key ['c']] ∧
      keys "@a@b@c@" = ["a", "c"] ∧
      render "@a@b@c@" (fun key => map.lookup key) = .ok "@b@b1" ∧
      render "@a@b@c@" (fun key => map.tail.lookup key) = .ok "@b@b1" := by
  intro map
  obtain ⟨pieces, split, -, rendered, -⟩ := splits_uniquely "@a@b@c@"
  have found : keys "@a@b@c@" = ["a", "c"] := by cbv
  have scanned : IsSplit "@a@b@c@".toList [.key ['a'], .char 'b', .key ['c']] :=
    isSplit_iff.mpr (by cbv)
  obtain rfl := (split _).mp scanned
  obtain ⟨-, covered, others⟩ := rendered fun key => map.lookup key
  have whole : render "@a@b@c@" (fun key => map.lookup key) = .ok "@b@b1" :=
    (covered (by rw [found]; decide)).trans (congrArg Except.ok (by decide))
  exact ⟨scanned, found, whole, (others _ (by rw [found]; decide)).trans whole⟩

end OpGraph.Template
