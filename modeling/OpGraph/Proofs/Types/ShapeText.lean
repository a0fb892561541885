import OpGraph.Proofs.Operator.Overlong
import OpGraph.Proofs.Text.Literal
import OpGraph.Types.ShapeText
import OpGraph.Writing

/-!
# Texts of shapes

What texts of shapes look like, and what each text is read as, the ones that are refused included
(`parse_eq_iff`). Shapes whose lengths can be written are read back from what they are written as,
but for the one that is written like unknown rank (`parse_of_writeItems`).
-/
namespace OpGraph

/-- The integer that a dimension is written as, if it is known. -/
def Dimension.toInt? : Dimension → Option Int
  | dynamic => none
  | static length => some length

namespace Shape

open Text (IsLiteral ArePieces)

/-! ### Items -/

/-- An item of a shape text and what it stands for. -/
inductive IsItem : String → Option Int → Prop
  | unknown : IsItem "?" none
  | length {item : String} {n : Int} (literal : IsLiteral item n) : IsItem item (some n)

theorem isItem_none {item : String} : IsItem item none ↔ item = "?" :=
  ⟨fun isItem => by cases isItem; rfl, fun same => same ▸ .unknown⟩

theorem isItem_some {item : String} {n : Int} : IsItem item (some n) ↔ IsLiteral item n :=
  ⟨fun isItem => by cases isItem; assumption, .length⟩

theorem parseItem_eq_ok {item : String} {value : Option Int} :
    parseItem item = .ok value ↔ IsItem item value := by
  rw [parseItem]
  split
  next unknown =>
    subst unknown
    rw [Outcome.pure_eq_ok]
    constructor
    · rintro rfl
      exact .unknown
    · rintro (_ | literal)
      · rfl
      · have read := Text.readInteger?_eq_some.mpr literal
        have none : Text.readInteger? "?" = Option.none := by decide +kernel
        cases none.symm.trans read
  next known =>
    simp only [Outcome.bind_eq_ok, Outcome.pure_eq_ok, parseInteger]
    constructor
    · rintro ⟨n, read, rfl⟩
      split at read
      next found =>
        cases read
        exact .length (Text.readInteger?_eq_some.mp found)
      · cases read
    · rintro (_ | literal)
      · exact absurd rfl known
      · rw [Text.readInteger?_eq_some.mpr literal]
        exact ⟨_, rfl, rfl⟩

theorem parseItem_eq_error {item : String} {failure : Failure} :
    parseItem item = .error failure ↔
      failure = .description (.notInteger item) ∧ ∀ value, ¬IsItem item value := by
  simp only [← parseItem_eq_ok]
  rw [parseItem, parseInteger]
  split
  · exact iff_of_false nofun fun refused => refused.2 none rfl
  next known =>
    cases Text.readInteger? item with
    | none => exact ⟨by rintro ⟨⟩; exact ⟨rfl, nofun⟩, by rintro ⟨rfl, -⟩; rfl⟩
    | some n => exact iff_of_false nofun fun refused => refused.2 (some n) rfl

theorem dimOfItem_eq_ok {value : Option Int} {dim : Dimension} :
    dimOfItem value = .ok dim ↔ value = dim.toInt? := by
  rcases value with _ | length | below <;> cases dim <;>
    simp [dimOfItem, Dimension.ofInt, Dimension.toInt?, Int.natCast_inj]

/-- What was read from an item can be written, so that a message about it can be. -/
theorem IsItem.isShort {item : String} {n : Int} (isItem : IsItem item (some n)) :
    Text.isShort n = true :=
  (Text.isShort_iff n).mpr (isItem_some.mp isItem).natAbs_lt

theorem dimOfItem_eq_error {item : String} {value : Option Int} (isItem : IsItem item value)
    {failure : Failure} :
    dimOfItem value = .error failure ↔ ∃ n < 0, value = some n ∧ failure = .negativeLength n := by
  rcases value with _ | n | n
  · exact iff_of_false nofun (by rintro ⟨_, _, ⟨⟩, _⟩)
  · refine iff_of_false nofun ?_
    rintro ⟨_, negative, ⟨⟩, _⟩
    exact absurd negative (by simp)
  · have raised : dimOfItem (some (.negSucc n)) = .error (.negativeLength (.negSucc n)) :=
      Failure.raise_eq_error.mpr (.inl ⟨isItem.isShort, rfl⟩)
    rw [raised]
    constructor
    · rintro ⟨⟩
      exact ⟨_, Int.negSucc_lt_zero n, rfl, rfl⟩
    · rintro ⟨_, _, ⟨⟩, rfl⟩
      rfl

/-! ### Whole texts -/

/-- The trimmed items of a text that is neither blank nor a single question mark. -/
structure HasItems (text : String) (items : List String) : Prop where
  known : Text.strip text ≠ "?"
  nonempty : Text.strip text ≠ ""
  trimmed : ∃ pieces, ArePieces (Text.strip text) pieces ∧ items = pieces.map Text.strip

/-- What a text is read as. An item that is no item at all is reported before any negative one. -/
inductive IsReadAs (text : String) : Except Failure Shape → Prop
  | unknownRank (trimmed : Text.strip text = "?") : IsReadAs text (.ok .dynamicRank)
  | rankZero (trimmed : Text.strip text = "") : IsReadAs text (.ok (.ranked []))
  | dims {items : List String} {dims : List Dimension} (has : HasItems text items)
      (each : List.Forall₂ IsItem items (dims.map Dimension.toInt?)) :
    IsReadAs text (.ok (.ranked dims))
  | malformed {before after : List String} {item : String}
      (has : HasItems text (before ++ item :: after))
      (earlier : ∀ item' ∈ before, ∃ value, IsItem item' value)
      (neither : ∀ value, ¬IsItem item value) :
    IsReadAs text (.error (.description (.notInteger item)))
  | negative {items : List String} {before after : List (Option Int)} {n : Int}
      (has : HasItems text items) (each : List.Forall₂ IsItem items (before ++ some n :: after))
      (earlier : ∀ m, some m ∈ before → 0 ≤ m) (below : n < 0) :
    IsReadAs text (.error (.negativeLength n))

theorem hasItems_iff {text : String} {items : List String} :
    HasItems text items ↔ Text.strip text ≠ "?" ∧ Text.strip text ≠ "" ∧
      items = (Text.commaPieces (Text.strip text)).map Text.strip := by
  constructor
  · rintro ⟨known, nonempty, pieces, are, rfl⟩
    exact ⟨known, nonempty, by rw [Text.arePieces_iff.mp are]⟩
  · rintro ⟨known, nonempty, same⟩
    exact ⟨known, nonempty, _, Text.arePieces_iff.mpr rfl, same⟩

theorem parse_of_hasItems {text : String} {items : List String} (has : HasItems text items) :
    parse text = do
      let values ← items.mapM parseItem
      return .ranked (← values.mapM dimOfItem) := by
  obtain ⟨known, nonempty, same⟩ := hasItems_iff.mp has
  rw [parse, if_neg known, if_neg nonempty, same]

theorem mapM_parseItem_eq_ok {items : List String} {values : List (Option Int)} :
    items.mapM parseItem = .ok values ↔ List.Forall₂ IsItem items values := by
  simp only [Outcome.mapM_eq_ok_iff, parseItem_eq_ok]

theorem mapM_dimOfItem_eq_ok {values : List (Option Int)} {dims : List Dimension} :
    values.mapM dimOfItem = .ok dims ↔ values = dims.map Dimension.toInt? := by
  simp only [Outcome.mapM_eq_ok_iff, dimOfItem_eq_ok]
  rw [← List.forall₂_map_right_iff, List.forall₂_eq_eq_eq]

/-- Only known values can be negative. -/
theorem dimOfItem_succeeds_iff {value : Option Int} :
    (∃ dim, dimOfItem value = .ok dim) ↔ ∀ m, value = some m → 0 ≤ m := by
  rcases value with _ | n | n
  · exact iff_of_true ⟨_, rfl⟩ nofun
  · exact iff_of_true ⟨_, rfl⟩ (by rintro _ ⟨⟩; simp)
  · refine iff_of_false (by rintro ⟨_, ⟨⟩⟩) fun positive => ?_
    exact absurd (positive _ rfl) (Int.not_le.mpr (Int.negSucc_lt_zero n))

/-- Every text is read, or refused, in one way. -/
theorem parse_eq_iff {text : String} {outcome : Except Failure Shape} :
    parse text = outcome ↔ IsReadAs text outcome := by
  constructor
  · rintro rfl
    by_cases known : Text.strip text = "?"
    · rw [parse, if_pos known]
      exact .unknownRank known
    by_cases nonempty : Text.strip text = ""
    · rw [parse, if_neg known, if_pos nonempty]
      exact .rankZero nonempty
    have has := hasItems_iff.mpr ⟨known, nonempty, rfl⟩
    -- All items are read before any is looked at for its sign.
    rw [parse_of_hasItems has]
    cases read : ((Text.commaPieces (Text.strip text)).map Text.strip).mapM parseItem with
    | error failure =>
      obtain ⟨before, item, after, same, earlier, refused⟩ :=
        (Outcome.mapM_eq_error_iff _ _ _).mp read
      obtain ⟨rfl, neither⟩ := parseItem_eq_error.mp refused
      simp only [parseItem_eq_ok] at earlier
      exact .malformed (same ▸ has) earlier neither
    | ok values =>
      have each := mapM_parseItem_eq_ok.mp read
      rw [Outcome.ok_bind]
      cases signs : values.mapM dimOfItem with
      | error failure =>
        obtain ⟨before, value, after, rfl, earlier, refused⟩ :=
          (Outcome.mapM_eq_error_iff _ _ _).mp signs
        obtain ⟨item, -, isItem⟩ := Outcome.forall₂_mem_left each.flip value
          (List.mem_append_right _ List.mem_cons_self)
        obtain ⟨n, below, rfl, rfl⟩ := (dimOfItem_eq_error isItem).mp refused
        simp only [dimOfItem_succeeds_iff] at earlier
        exact .negative has each (fun m among => earlier _ among m rfl) below
      | ok dims =>
        rw [mapM_dimOfItem_eq_ok.mp signs] at each
        exact .dims has each
  · rintro (trimmed | trimmed | ⟨has, each⟩ | ⟨has, earlier, neither⟩ | ⟨has, each, earlier, below⟩)
    · rw [parse, if_pos trimmed]
      rfl
    · rw [parse, if_neg (by rw [trimmed]; decide), if_pos trimmed]
      rfl
    · rw [parse_of_hasItems has, mapM_parseItem_eq_ok.mpr each, Outcome.ok_bind,
        mapM_dimOfItem_eq_ok.mpr rfl]
      rfl
    · simp only [← parseItem_eq_ok] at earlier
      have refused := parseItem_eq_error.mpr ⟨rfl, neither⟩
      rw [parse_of_hasItems has,
        (Outcome.mapM_eq_error_iff _ _ _).mpr ⟨_, _, _, rfl, earlier, refused⟩]
      rfl
    · have passed : ∀ value ∈ _, ∃ dim, dimOfItem value = .ok dim := fun value among =>
        dimOfItem_succeeds_iff.mpr fun m same => earlier m (same ▸ among)
      obtain ⟨item, -, isItem⟩ := Outcome.forall₂_mem_left each.flip (some _)
        (List.mem_append_right _ List.mem_cons_self)
      have refused := (dimOfItem_eq_error isItem).mpr ⟨_, below, rfl, rfl⟩
      rw [parse_of_hasItems has, mapM_parseItem_eq_ok.mpr each, Outcome.ok_bind,
        (Outcome.mapM_eq_error_iff _ _ _).mpr ⟨_, _, _, rfl, passed, refused⟩]
      rfl

/-! ### Written shapes -/

/-- One of the lengths has too many digits to be written. -/
def Overlong (shape : Shape) : Prop :=
  ∃ dims length, shape = .ranked dims ∧ .static length ∈ dims ∧ Dimension.Overlong length

theorem isShort_eq_false {shape : Shape} : shape.isShort = false ↔ shape.Overlong := by
  cases shape with
  | dynamicRank => exact iff_of_false nofun fun ⟨_, _, same, _⟩ => nomatch same
  | ranked dims =>
    rw [isShort, List.all_eq_false]
    constructor
    · rintro ⟨_ | length, among, long⟩
      · exact absurd rfl long
      · exact ⟨dims, length, rfl, among,
          Dimension.isShort_static_eq_false.mp (Bool.not_eq_true _ ▸ long)⟩
    · rintro ⟨_, length, ⟨⟩, among, many⟩
      exact ⟨_, among, Bool.not_eq_true _ ▸ Dimension.isShort_static_eq_false.mpr many⟩

/-- The text that a shape is read from: its dimensions with commas between them, and a question mark
for unknown rank. -/
def writeItems : Shape → Except Failure String
  | dynamicRank => .ok "?"
  | ranked dims => do return Text.commaList (← dims.mapM Dimension.write)

theorem writeItems_ranked (dims : List Dimension) : (ranked dims).writeItems =
    writeWhen (ranked dims).isShort (Text.commaList (dims.map Dimension.text)) := by
  have items := mapM_writeWhen Dimension.isShort Dimension.text dims
  change dims.mapM Dimension.write = _ at items
  rw [writeItems, items, isShort]
  cases dims.all Dimension.isShort <;> rfl

theorem writeItems_eq_error {shape : Shape} {failure : Failure} :
    shape.writeItems = .error failure ↔ failure = .numberTooLong ∧ shape.Overlong := by
  rw [← isShort_eq_false]
  cases shape with
  | dynamicRank => exact iff_of_false nofun fun refused => nomatch refused.2
  | ranked dims =>
    rw [writeItems_ranked]
    cases (ranked dims).isShort <;> simp [writeWhen, eq_comm]

theorem writeItems_ranked_eq_ok {dims : List Dimension} {text : String}
    (written : (ranked dims).writeItems = .ok text) :
    text = Text.commaList (dims.map Dimension.text) := by
  rw [writeItems_ranked, writeWhen_eq_ok_iff] at written
  exact written.2.symm

theorem isTight_text (dim : Dimension) : Text.IsTight dim.text := by
  cases dim with
  | dynamic => exact .of_forall (by decide) (List.forall_mem_singleton.mpr rfl)
  | static length =>
    exact .of_forall (Reading.repr_ne_empty length) fun c among =>
      Text.isBlank_of_isDigit (Reading.toList_repr_digits length c among)

theorem text_without_comma (dim : Dimension) : ',' ∉ dim.text.toList := by
  cases dim with
  | dynamic => decide
  | static length =>
    exact fun among => absurd (Reading.toList_repr_digits length ',' among) (by decide)

theorem eq_dynamic_of_text {dim : Dimension} (unknown : dim.text = "?") : dim = .dynamic := by
  cases dim with
  | dynamic => rfl
  | static length =>
    have digits : ∀ c ∈ (Nat.repr length).toList, c.isDigit = true :=
      Reading.toList_repr_digits length
    change Nat.repr length = "?" at unknown
    rw [unknown] at digits
    exact absurd (digits '?' (by decide)) (by decide)

theorem isItem_text {dim : Dimension} (few : ∀ n, dim = .static n → ¬Dimension.Overlong n) :
    IsItem dim.text dim.toInt? := by
  cases dim with
  | dynamic => exact .unknown
  | static n => exact .length (Text.isLiteral_repr (Nat.not_le.mp (few n rfl)))

/-- The texts of dimensions are the items of the text that they make up. -/
theorem hasItems_commaList {dim : Dimension} {dims : List Dimension}
    (other : dim :: dims ≠ [.dynamic]) :
    HasItems (Text.commaList ((dim :: dims).map Dimension.text))
      ((dim :: dims).map Dimension.text) := by
  have tight : ∀ item ∈ (dim :: dims).map Dimension.text, Text.IsTight item :=
    List.forall_mem_map.mpr fun dim _ => isTight_text dim
  have plain : ∀ item ∈ (dim :: dims).map Dimension.text, ',' ∉ item.toList :=
    List.forall_mem_map.mpr fun dim _ => text_without_comma dim
  have trimmed := (Text.isTight_commaList tight).strip_eq
  have pieces := Text.arePieces_commaList plain
  rw [← List.map_cons] at trimmed
  -- Behind a comma an item begins with a blank, so splitting gives the items up to trimming.
  refine ⟨fun unknown => other ?_, fun empty => ?_, _, trimmed.symm ▸ pieces, ?_⟩
  · rw [trimmed] at unknown
    have single : dim.text :: (dims.map Dimension.text).map (" " ++ ·) = ["?"] :=
      Text.arePieces_iff.mp (unknown ▸ pieces)
    simp only [List.cons.injEq, List.map_eq_nil_iff] at single
    rw [eq_dynamic_of_text single.1, single.2]
  · rw [trimmed] at empty
    exact (Text.isTight_commaList tight).nonempty empty
  · obtain ⟨here, there⟩ := List.forall_mem_cons.mp tight
    have spaced : (dims.map Dimension.text).map (Text.strip ∘ (" " ++ ·)) =
        (dims.map Dimension.text).map id :=
      List.map_congr_left fun item among =>
        (there item among).strip_append (List.forall_mem_singleton.mpr rfl)
    rw [List.map_cons, List.map_cons, here.strip_eq, List.map_map, spaced, List.map_id]

/-- The text of a shape is read back as the shape, but for the one that is written like unknown
rank. -/
theorem parse_of_writeItems {shape : Shape} {text : String}
    (written : shape.writeItems = .ok text)
    (other : shape ≠ .ranked [.dynamic]) : parse text = .ok shape := by
  rw [parse_eq_iff]
  cases shape with
  | dynamicRank =>
    cases written
    exact .unknownRank (by decide)
  | ranked dims =>
    have few : ∀ dim ∈ dims, ∀ n, dim = .static n → ¬Dimension.Overlong n := by
      rintro _ among n rfl many
      cases (writeItems_eq_error.mpr ⟨rfl, dims, n, rfl, among, many⟩).symm.trans written
    rw [writeItems_ranked_eq_ok written]
    cases dims with
    | nil => exact .rankZero (by decide)
    | cons dim dims =>
      refine .dims (hasItems_commaList (by simpa using other)) ?_
      rw [List.forall₂_map_left_iff, List.forall₂_map_right_iff, List.forall₂_same]
      exact fun dim among => isItem_text (few dim among)

/-- A single question mark stands for unknown rank, so no text stands for one unknown dimension. -/
theorem parse_ne_single_dynamic (text : String) : parse text ≠ .ok (.ranked [.dynamic]) := by
  intro read
  cases parse_eq_iff.mp read with
  | @dims items _ has each =>
    obtain ⟨known, -, pieces, are, same⟩ := has
    obtain ⟨item, isItem, alone⟩ : ∃ item, IsItem item none ∧ items = [item] := by
      rw [List.map_cons, List.map_nil, List.forall₂_cons_right_iff] at each
      obtain ⟨item, rest, isItem, ended, alone⟩ := each
      rw [List.forall₂_nil_right_iff.mp ended] at alone
      exact ⟨item, isItem, alone⟩
    rw [isItem_none.mp isItem] at alone
    -- The one piece is the whole trimmed text, which trimming leaves as it is.
    obtain ⟨piece, rfl, trimmed⟩ := List.map_eq_singleton_iff.mp (same.symm.trans alone)
    have whole : piece = Text.strip text := by
      rw [← are.joined, String.intercalate_singleton]
    rw [whole, Text.strip_strip] at trimmed
    exact known trimmed

/-- Every length was said by a literal, and so has few enough digits. -/
theorem isShort_of_parse {shape : Shape} {text : String} (read : parse text = .ok shape) :
    shape.isShort = true := by
  rw [← Bool.not_eq_false, isShort_eq_false]
  rintro ⟨dims, length, rfl, among, many⟩
  cases parse_eq_iff.mp read with
  | rankZero => cases among
  | dims has each =>
    obtain ⟨item, -, isItem⟩ := Outcome.forall₂_mem_left each.flip _
      (List.mem_map_of_mem (f := Dimension.toInt?) among)
    exact absurd (isItem_some.mp isItem).natAbs_lt (Nat.not_lt.mpr many)

/-- Every text is read as its grammar has it, and the shapes that texts are read as are those that
can be written, but for a single unknown dimension. Each of these is read back from its text. A shape
cannot be written just when a length has too many digits. -/
theorem parse_reaches_written :
    (∀ text outcome, parse text = outcome ↔ IsReadAs text outcome) ∧
      (∀ shape : Shape, shape ≠ .ranked [.dynamic] → ¬shape.Overlong →
        ∃ text, shape.writeItems = .ok text ∧ parse text = .ok shape) ∧
      (∀ text shape, parse text = .ok shape → shape ≠ .ranked [.dynamic] ∧ ¬shape.Overlong) ∧
      ∀ (shape : Shape) (failure : Failure),
        shape.writeItems = .error failure ↔ failure = .numberTooLong ∧ shape.Overlong := by
  refine ⟨fun text outcome => parse_eq_iff, fun shape other few => ?_, fun text shape read => ?_,
    fun shape failure => writeItems_eq_error⟩
  · cases written : shape.writeItems with
    | error failure => exact absurd (writeItems_eq_error.mp written).2 few
    | ok text => exact ⟨text, rfl, parse_of_writeItems written other⟩
  · refine ⟨?_, ?_⟩
    · rintro rfl
      exact parse_ne_single_dynamic text read
    · rw [← isShort_eq_false, Bool.not_eq_false]
      exact isShort_of_parse read

/-- A negative length is only seen when every item is one, and unknown dimensions among others are
read back. -/
theorem parse_reaches_written_mixed :
    parse " ?,x , -1" = .error (.description (.notInteger "x")) ∧
      ∃ text, (ranked [.static 2, .dynamic]).writeItems = .ok text ∧
        parse text = .ok (ranked [.static 2, .dynamic]) := by
  have items : HasItems " ?,x , -1" (["?"] ++ "x" :: ["-1"]) :=
    hasItems_iff.mpr ⟨by decide, by decide, by decide⟩
  have unread : ∀ value, ¬IsItem "x" value := by
    simp only [← parseItem_eq_ok]
    exact fun value read => nomatch read
  have short : ¬(ranked [.static 2, .dynamic]).Overlong := by
    rintro ⟨_, length, ⟨⟩, among, many⟩
    obtain rfl : length = 2 := by simpa using among
    exact Nat.not_le.mpr (Nat.lt_of_lt_of_le (by decide) (Nat.le_self_pow (by decide) 10)) many
  refine ⟨(parse_reaches_written.1 _ _).mpr (.malformed items ?_ unread), ?_⟩
  · rintro item among
    rw [List.mem_singleton.mp among]
    exact ⟨none, .unknown⟩
  · exact parse_reaches_written.2.1 _ (by decide) short

/-- A length of too many digits is not written, and its digits are not read. -/
theorem parse_first_overlong :
    let length := 10 ^ Text.literalDigitLimit
    ranked [.static length] ≠ .ranked [.dynamic] ∧
      (ranked [.static length]).writeItems = .error .numberTooLong ∧
      parse (Nat.repr length) = .error (.description (.notInteger (Nat.repr length))) := by
  intro length
  have other : [Dimension.static length] ≠ [.dynamic] := by
    intro same
    cases List.head_eq_of_cons_eq same
  have items : HasItems (Nat.repr length) ([] ++ Nat.repr length :: []) := by
    have items := hasItems_commaList other
    rwa [List.map_cons, List.map_nil, Text.commaList, String.intercalate_singleton] at items
  have unread : ∀ value, ¬IsItem (Nat.repr length) value := by
    rintro (_ | n) isItem
    · have unknown : Dimension.static length = .dynamic :=
        eq_dynamic_of_text (isItem_none.mp isItem)
      exact Dimension.noConfusion unknown
    · exact Text.not_isLiteral_repr (Nat.le_refl _) n (isItem_some.mp isItem)
  refine ⟨by simp, writeItems_eq_error.mpr ⟨rfl, _, length, rfl, ?_, Nat.le_refl _⟩, ?_⟩
  · exact List.mem_singleton_self _
  · exact parse_eq_iff.mpr (.malformed items (fun _ among => absurd among List.not_mem_nil) unread)

end Shape
end OpGraph
