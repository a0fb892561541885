import OpGraph.Description.Basic
import OpGraph.Proofs.Outcome

/-!
# Reading descriptions

What can go wrong when a description is read from the markup of a text. Nearly always something
does not have the form that is expected. The rest has one of four causes, each at a part of the
description that is read as a collection or as names between commas (`Blocks`): nothing else that
the markup holds can be in the way (`fails_ofMarkup`), and where one of them is, nothing is read
(`not_blocks_of_read`).
-/
namespace OpGraph.Description

open Markup (Content Key Word)
open Outcome (Fails)

/-- What is read does not have the form that is expected, or there is some other cause. -/
inductive MisfitOr (other : Failure → Prop) : Failure → Prop
  | misfit : MisfitOr other (.markup .misfit)
  | other {failure : Failure} (cause : other failure) : MisfitOr other failure

/-- The parts of a description that are not words. -/
inductive Part where
  | description
  | inputs
  | nodes
  | input
  | node
  | attrs
  | fields

namespace Part

/-- The part that an entry of a part is, if it is no word. -/
def entry : Part → String → Option Part
  | description, "inputs" => some inputs
  | description, "nodes" => some nodes
  | description, "outputs" | node, "inputs" => some fields
  | node, "attrs" => some attrs
  | _, _ => none

/-- The part that an item of a part is. -/
def item : Part → Option Part
  | inputs => some input
  | nodes => some node
  | _ => none

/-- Whether a part is read entry by entry. -/
def hasEntries : Part → Bool
  | description | input | node | attrs => true
  | inputs | nodes | fields => false

/-- Where the parts of a description stand in its markup. -/
inductive Stands (root : Content) : Part → Content → Prop
  | root : Stands root .description root
  | entry {whole part : Part} {entries : List (Key × Content)} {key : String} {content : Content}
    (here : Stands root whole (.mapping entries)) (member : (.text key, content) ∈ entries)
    (named : whole.entry key = some part) : Stands root part content
  | item {whole part : Part} {items : List Content} {content : Content}
    (here : Stands root whole (.sequence items)) (member : content ∈ items)
    (listed : whole.item = some part) : Stands root part content

end Part

open OpGraph.Description.Part (Stands)

/-- What is in the way of reading a description although it is no fault of one: a sequence as a
key, a symbol for a collection or for names, or an empty name between commas. -/
inductive Blocks (root : Content) : Failure → Prop
  | sequenceKey {part : Part} {entries : List (Key × Content)} {words : List Word} {content : Content}
    (here : Stands root part (.mapping entries)) (mapping : part.hasEntries = true)
    (member : (.sequence words, content) ∈ entries) : Blocks root (.markup .sequenceKey)
  | bareSymbol {part : Part} {symbol : String} (here : Stands root part (.word (.symbol symbol)))
    (collection : part ≠ .fields) : Blocks root (.markup .bareSymbol)
  | emptyItem {text : String} (here : Stands root .fields (.word (.text text)))
    (empty : Text.commaFields? text = none) : Blocks root .emptyItem
  | notAText {symbol : String} (here : Stands root .fields (.word (.symbol symbol))) :
    Blocks root .notAText

variable {root content : Content}

theorem fails_misfit {α : Type} {other : Failure → Prop} :
    Fails (MisfitOr other) (misfit : Except Failure α) :=
  .error .misfit

theorem fails_readWord {other : Failure → Prop} : Fails (MisfitOr other) (readWord content) := by
  unfold readWord
  split
  · exact .ok _
  · exact fails_misfit

theorem fails_required {other : Failure → Prop} (fields : Fields) (name : String) :
    Fails (MisfitOr other) (fields.required name) := by
  unfold Fields.required
  split
  · exact .ok _
  · exact fails_misfit

theorem fails_readWordEntry {other : Failure → Prop} (entry : String × Content) :
    Fails (MisfitOr other) (readWordEntry entry) :=
  .bind fails_readWord fun word _ => .ok (entry.1, word)

theorem fails_readFields (here : Stands root .fields content) :
    Fails (MisfitOr (Blocks root)) (readFields content) := by
  refine .bind fails_readWord fun word read => ?_
  obtain rfl : content = .word word := by
    unfold readWord at read
    split at read <;> cases read
    rfl
  cases word with
  | symbol symbol => exact .error (.other (.notAText here))
  | text text =>
    refine .bind (.ok text) fun value same => ?_
    cases same
    cases fields : Text.commaFields? text with
    | some names => exact .ok names
    | none => exact .error (.other (.emptyItem here fields))

section Parts

variable {part : Part}

theorem fails_readSequence (here : Stands root part content) (collection : part ≠ .fields) :
    Fails (MisfitOr (Blocks root)) (readSequence content) := by
  unfold readSequence
  split
  · exact .ok _
  · exact .error (.other (.bareSymbol here collection))
  · exact fails_misfit

theorem stands_item {items : List Content} (here : Stands root part content)
    (read : readSequence content = .ok items) {sub : Part} (listed : part.item = some sub) :
    ∀ item ∈ items, Stands root sub item := by
  unfold readSequence at read
  split at read <;> cases read
  exact fun item member => here.item member listed

theorem fails_readMapping (here : Stands root part content) (mapping : part.hasEntries = true) :
    Fails (MisfitOr (Blocks root)) (readMapping content) := by
  unfold readMapping
  split
  · refine .mapM fun entry member => ?_
    split
    · exact .ok _
    · exact .error (.other (.sequenceKey here mapping member))
  · refine .error (.other (.bareSymbol here ?_))
    rintro rfl
    cases mapping
  · exact fails_misfit

theorem stands_entry {entries : List (String × Content)} (here : Stands root part content)
    (read : readMapping content = .ok entries) {sub : Part} :
    ∀ entry ∈ entries, part.entry entry.1 = some sub → Stands root sub entry.2 := by
  unfold readMapping at read
  split at read
  · intro entry member named
    obtain ⟨listed, among, same⟩ := Outcome.forall₂_mem_left
      ((Outcome.mapM_eq_ok_iff _ _ _).mp read).flip entry member
    split at same <;> cases same
    exact here.entry among named
  · cases read
  · cases read

end Parts

theorem fails_readInput (here : Stands root .input content) :
    Fails (MisfitOr (Blocks root)) (readInput content) := by
  refine .bind (fails_readMapping here rfl) fun entries _ => ?_
  refine .bind (.foldlM (fun fields entry _ => ?_) _) fun fields _ => ?_
  · unfold readInputEntry
    split
    · exact .bind (fails_readWordEntry entry) fun word _ => .ok _
    · exact fails_misfit
  · refine .bind (fails_required fields _) fun name _ => ?_
    exact .bind (fails_required fields _) fun shape _ => .ok _

theorem fails_readNodeEntry {entry : String × Content}
    (stands : ∀ part, Part.node.entry entry.1 = some part → Stands root part entry.2)
    (fields : Fields) : Fails (MisfitOr (Blocks root)) (readNodeEntry fields entry) := by
  unfold readNodeEntry
  split
  · exact .bind (fails_readWordEntry entry) fun word _ => .ok _
  · split
    next named =>
      have here : Stands root .fields entry.2 := stands .fields (by rw [named]; rfl)
      exact .bind (fails_readFields here) fun names _ => .ok _
    · split
      next named =>
        have here : Stands root .attrs entry.2 := stands .attrs (by rw [named]; rfl)
        refine .bind (fails_readMapping here rfl) fun entries _ => ?_
        exact .bind (.mapM fun attr _ => fails_readWordEntry attr) fun attrs _ => .ok _
      · exact fails_misfit

theorem fails_readNode (here : Stands root .node content) :
    Fails (MisfitOr (Blocks root)) (readNode content) := by
  refine .bind (fails_readMapping here rfl) fun entries read => ?_
  refine .bind (.foldlM (fun fields entry member => ?_) _) fun fields _ => ?_
  · exact fails_readNodeEntry (fun part => stands_entry here read entry member) fields
  · split
    · refine .bind (fails_required fields _) fun name _ => ?_
      exact .bind (fails_required fields _) fun kind _ => .ok _
    · exact fails_misfit

theorem fails_readSection {entry : String × Content}
    (stands : ∀ part, Part.description.entry entry.1 = some part → Stands root part entry.2)
    (sections : Sections) : Fails (MisfitOr (Blocks root)) (readSection sections entry) := by
  unfold readSection
  split
  · exact .bind fails_readWord fun word _ => .ok _
  next named =>
    have here : Stands root .inputs entry.2 := stands .inputs (by rw [named]; rfl)
    refine .bind (fails_readSequence here nofun) fun items read => ?_
    refine .bind (.mapM fun item member => ?_) fun inputs _ => .ok _
    exact fails_readInput (stands_item here read rfl item member)
  next named =>
    have here : Stands root .nodes entry.2 := stands .nodes (by rw [named]; rfl)
    refine .bind (fails_readSequence here nofun) fun items read => ?_
    refine .bind (.mapM fun item member => ?_) fun nodes _ => .ok _
    exact fails_readNode (stands_item here read rfl item member)
  next named =>
    have here : Stands root .fields entry.2 := stands .fields (by rw [named]; rfl)
    exact .bind (fails_readFields here) fun names _ => .ok _
  · exact fails_misfit

theorem fails_ofMarkup (root : Content) : Fails (MisfitOr (Blocks root)) (ofMarkup root) := by
  refine .bind (fails_readMapping .root rfl) fun entries read => ?_
  refine .bind (.foldlM (fun sections entry member => ?_) _) fun sections _ => ?_
  · exact fails_readSection (fun part => stands_entry .root read entry member) sections
  · split
    · exact .ok _
    · exact fails_misfit

/-! ### Descriptions that are read -/

/-- A part that was read as what it is. -/
def Part.IsRead : Part → Content → Prop
  | description, content => ∃ description, ofMarkup content = .ok description
  | inputs, content => ∃ items inputs, readSequence content = .ok items ∧
      items.mapM readInput = .ok inputs
  | nodes, content => ∃ items nodes, readSequence content = .ok items ∧
      items.mapM readNode = .ok nodes
  | input, content => ∃ input, readInput content = .ok input
  | node, content => ∃ node, readNode content = .ok node
  | attrs, content => ∃ entries attrs, readMapping content = .ok entries ∧
      entries.mapM readWordEntry = .ok attrs
  | fields, content => ∃ names, readFields content = .ok names

theorem Part.IsRead.readMapping {part : Part} (read : part.IsRead content)
    (mapping : part.hasEntries = true) : ∃ entries, readMapping content = .ok entries := by
  cases part with
  | description | input | node =>
    obtain ⟨_, read⟩ := read
    obtain ⟨entries, listed, -⟩ := (Outcome.bind_eq_ok _ _ _).mp read
    exact ⟨entries, listed⟩
  | attrs =>
    obtain ⟨entries, _, listed, -⟩ := read
    exact ⟨entries, listed⟩
  | inputs | nodes | fields => cases mapping

theorem mem_of_readMapping {entries : List (Key × Content)} {read : List (String × Content)}
    (listed : readMapping (.mapping entries) = .ok read) :
    ∀ entry ∈ entries, ∃ key, entry.1 = .text key ∧ (key, entry.2) ∈ read := by
  rintro ⟨key, content⟩ member
  obtain ⟨entry, among, same⟩ := Outcome.forall₂_mem_left
    ((Outcome.mapM_eq_ok_iff _ _ _).mp listed) _ member
  cases key with
  | text key =>
    cases same
    exact ⟨key, rfl, among⟩
  | sequence words => cases same

section Entries

variable {entries : List (Key × Content)} {key : String}

theorem readSection_of_mem {description : Description}
    (read : ofMarkup (.mapping entries) = .ok description)
    (member : (.text key, content) ∈ entries) :
    ∃ before after, readSection before (key, content) = .ok after := by
  obtain ⟨listed, mapped, read⟩ := (Outcome.bind_eq_ok _ _ _).mp read
  obtain ⟨sections, folded, -⟩ := (Outcome.bind_eq_ok _ _ _).mp read
  obtain ⟨_, same, among⟩ := mem_of_readMapping mapped _ member
  cases same
  exact Outcome.foldlM_eq_ok folded _ among

theorem readNodeEntry_of_mem {node : NodeDescription} (read : readNode (.mapping entries) = .ok node)
    (member : (.text key, content) ∈ entries) :
    ∃ before after, readNodeEntry before (key, content) = .ok after := by
  obtain ⟨listed, mapped, read⟩ := (Outcome.bind_eq_ok _ _ _).mp read
  obtain ⟨fields, folded, -⟩ := (Outcome.bind_eq_ok _ _ _).mp read
  obtain ⟨_, same, among⟩ := mem_of_readMapping mapped _ member
  cases same
  exact Outcome.foldlM_eq_ok folded _ among

end Entries

/-- All parts of a description that was read were read. -/
theorem isRead_of_stands {part : Part} (read : Part.description.IsRead root)
    (here : Stands root part content) : part.IsRead content := by
  induction here with
  | root => exact read
  | @entry whole part entries key content _ member named ih =>
    -- One case for each entry that is a part: the fold over the entries has read it.
    unfold Part.entry at named
    split at named <;> cases named
    · obtain ⟨_, read⟩ := ih
      obtain ⟨_, _, read⟩ := readSection_of_mem read member
      obtain ⟨items, listed, read⟩ := (Outcome.bind_eq_ok _ _ _).mp read
      obtain ⟨inputs, all, -⟩ := (Outcome.bind_eq_ok _ _ _).mp read
      exact ⟨items, inputs, listed, all⟩
    · obtain ⟨_, read⟩ := ih
      obtain ⟨_, _, read⟩ := readSection_of_mem read member
      obtain ⟨items, listed, read⟩ := (Outcome.bind_eq_ok _ _ _).mp read
      obtain ⟨nodes, all, -⟩ := (Outcome.bind_eq_ok _ _ _).mp read
      exact ⟨items, nodes, listed, all⟩
    · obtain ⟨_, read⟩ := ih
      obtain ⟨_, _, read⟩ := readSection_of_mem read member
      obtain ⟨names, read, -⟩ := (Outcome.bind_eq_ok _ _ _).mp read
      exact ⟨names, read⟩
    · obtain ⟨_, read⟩ := ih
      obtain ⟨_, _, read⟩ := readNodeEntry_of_mem read member
      obtain ⟨names, read, -⟩ := (Outcome.bind_eq_ok _ _ _).mp read
      exact ⟨names, read⟩
    · obtain ⟨_, read⟩ := ih
      obtain ⟨_, _, read⟩ := readNodeEntry_of_mem read member
      obtain ⟨listed, mapped, read⟩ := (Outcome.bind_eq_ok _ _ _).mp read
      obtain ⟨attrs, all, -⟩ := (Outcome.bind_eq_ok _ _ _).mp read
      exact ⟨listed, attrs, mapped, all⟩
  | @item whole part items content _ member listed ih =>
    have each {α : Type} {f : Content → Except Failure α} {results : List α}
        (all : items.mapM f = .ok results) : ∃ result, f content = .ok result := by
      obtain ⟨result, -, same⟩ := Outcome.forall₂_mem_left
        ((Outcome.mapM_eq_ok_iff _ _ _).mp all) content member
      exact ⟨result, same⟩
    unfold Part.item at listed
    split at listed <;> cases listed <;> obtain ⟨_, _, same, all⟩ := ih <;> cases same
    · exact each all
    · exact each all

/-- Nothing blocks a description that was read. -/
theorem not_blocks_of_read {description : Description} (read : ofMarkup root = .ok description)
    (failure : Failure) : ¬Blocks root failure := by
  intro blocks
  have all {part : Part} {content : Content} (here : Stands root part content) : part.IsRead content :=
    isRead_of_stands ⟨description, read⟩ here
  -- What was read at a place has the form that the place asks for, and what blocks does not.
  cases blocks with
  | sequenceKey here mapping member =>
    obtain ⟨entries, listed⟩ := (all here).readMapping mapping
    obtain ⟨key, same, -⟩ := mem_of_readMapping listed _ member
    cases same
  | @bareSymbol part _ here collection =>
    have read := all here
    cases mapping : part.hasEntries with
    | true =>
      obtain ⟨entries, listed⟩ := read.readMapping mapping
      cases listed
    | false =>
      cases part with
      | inputs | nodes =>
        obtain ⟨_, _, listed, -⟩ := read
        cases listed
      | fields => exact collection rfl
      | _ => cases mapping
  | @emptyItem text here empty =>
    obtain ⟨names, read⟩ := all here
    have refused : readFields (.word (.text text)) = .error .emptyItem := by
      rw [readFields, readWord, Outcome.ok_bind, textOf, Outcome.ok_bind, empty]
      rfl
    cases refused.symm.trans read
  | notAText here =>
    obtain ⟨names, read⟩ := all here
    cases read

end OpGraph.Description
