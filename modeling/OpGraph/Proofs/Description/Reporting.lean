import OpGraph.Proofs.Description.Loading
import OpGraph.Proofs.Description.Reading

/-!
# What loading reports

Loading a description ends with a graph, with a fault of the description, or with a failure that
has one of a few other causes (`fails_load`): the reader refuses the text for another reason than
its form, something blocks the reading of its contents, or a symbol stands for a text or for a name
that is taken (`Spoils`). Nothing else can go wrong, whatever the reader, the text, the registry and
the store are, and a text with such a cause is never loaded (`not_escapes_of_load`). No message of
loading is too long to be written, since all numbers in it were read.
-/
namespace OpGraph.Description

open Markup (Content Word)
open Outcome (Fails)

/-- A fault of the description is reported, or there is some other cause. -/
inductive ReportedOr (other : Failure → Prop) : Failure → Prop
  | reported (fault : DescriptionFault) : ReportedOr other (.description fault)
  | other {failure : Failure} (cause : other failure) : ReportedOr other failure

/-- How a symbol fails a description that has been read: as a shape, as an attribute, as the name
of an output that is not listed, or as a name that is declared twice. -/
inductive Spoils (description : Description) : Failure → Prop
  | shape {input : InputDescription} {symbol : String} (declared : input ∈ description.inputs)
    (shape : input.shape = .symbol symbol) : Spoils description .notAText
  | attr {node : NodeDescription} {key symbol : String} (declared : node ∈ description.nodes)
    (given : (key, .symbol symbol) ∈ node.attrs) : Spoils description .notAText
  | output {symbol : String} (omitted : description.outputs = none)
    (unread : .symbol symbol ∈ description.unreadNames) : Spoils description .notAText
  | name {symbol : String} (declared : .symbol symbol ∈ description.names)
    (twice : 2 ≤ (description.names.map Word.written).count symbol) :
    Spoils description (.duplicateNodeName symbol)

variable {other : Failure → Prop}

theorem fails_textOf {word : Word} (symbol : ∀ symbol, word = .symbol symbol → other .notAText) :
    Fails (ReportedOr other) (textOf word) := by
  cases word with
  | text text => exact .ok text
  | symbol name => exact .error (.other (symbol name rfl))

theorem fails_parseInteger (text : String) : Fails (ReportedOr other) (parseInteger text) := by
  unfold parseInteger
  split
  · exact .ok _
  · exact .error (.reported _)

theorem explained {account : String} {other : Failure → Prop} {failure : Failure}
    (unlike : ¬other (.markup .misfit)) (cause : MisfitOr other failure) :
    ReportedOr other (explain account failure) := by
  cases cause with
  | misfit => exact .reported _
  | other cause =>
    unfold explain
    split
    · exact absurd cause unlike
    · exact .other cause

/-! ### Inputs and nodes -/

theorem ReportedOr.locate {failure : Failure} (reported : ReportedOr other failure) (name : String) :
    ReportedOr other (locateInput name failure) := by
  cases reported with
  | reported fault => exact .reported fault
  | other cause =>
    unfold locateInput
    split
    · exact .reported _
    · exact .reported _
    · exact .other cause

theorem isShort_of_parseItem {text : String} {length : Int}
    (read : Shape.parseItem text = .ok (some length)) : Text.isShort length = true := by
  unfold Shape.parseItem at read
  split at read
  · cases read
  · obtain ⟨value, parsed, same⟩ := (Outcome.bind_eq_ok _ _ _).mp read
    cases same
    exact isShort_of_parseInteger parsed

theorem fails_inputType (input : InputDescription)
    (symbol : ∀ symbol, input.shape = .symbol symbol → other .notAText) :
    Fails (ReportedOr other) (inputType input) := by
  unfold inputType
  refine .mapError ?_
  generalize input.name.written = name
  -- A negative length and an unknown element type are faults only once they are located.
  let located (failure : Failure) : Prop := ReportedOr other (locateInput name failure)
  have reported {α : Type} {step : Except Failure α} (fails : Fails (ReportedOr other) step) :
      Fails located step := fun failure failed => (fails failure failed).locate name
  have item (text : String) : Fails located (Shape.parseItem text) := by
    unfold Shape.parseItem
    split
    · exact .ok _
    · exact .bind (reported (fails_parseInteger text)) fun length _ => .ok _
  have length {text : String} {item : Option Int} (read : Shape.parseItem text = .ok item) :
      Fails located (Shape.dimOfItem item) := by
    cases item with
    | none => exact .ok _
    | some length =>
      cases length with
      | ofNat length => exact .ok _
      | negSucc below =>
        intro failure refused
        obtain ⟨-, rfl⟩ | ⟨long, -⟩ := Failure.raise_eq_error.mp refused
        · exact .reported _
        · cases long.symm.trans (isShort_of_parseItem read)
  have shape (text : String) : Fails located (Shape.parse text) := by
    unfold Shape.parse
    dsimp only
    split
    · exact .ok _
    · split
      · exact .ok _
      · refine .bind (.mapM fun text _ => item text) fun items read => ?_
        refine .bind (.mapM fun item member => ?_) fun dims _ => .ok _
        obtain ⟨text, -, read⟩ := Outcome.forall₂_mem_left
          ((Outcome.mapM_eq_ok_iff _ _ _).mp read).flip item member
        exact length read
  refine .bind (reported (fails_textOf symbol)) fun text _ => .bind (shape text) fun shape _ =>
    .bind ?_ fun etype _ => .ok _
  unfold ElementType.ofName
  split
  · exact .ok _
  · exact .error (.reported _)

theorem fails_requireFresh (declared : Declared) (name : Word) :
    Fails (ReportedOr other) (requireFresh declared name) := by
  unfold requireFresh
  split
  · split
    · exact .error (.reported _)
    · exact .ok _
  · exact .ok _

theorem fails_parseAttribute {attr : String × Word}
    (symbol : ∀ symbol, attr.2 = .symbol symbol → other .notAText) :
    Fails (ReportedOr other) (parseAttribute attr) := by
  refine .bind (fails_textOf symbol) fun text _ => ?_
  split
  · exact .bind (.mapM fun item _ => fails_parseInteger item) fun ints _ => .ok _
  · exact .ok _

theorem fails_operatorOf [DescriptionReader] (definition : OperatorDefinition)
    (node : NodeDescription)
    (symbol : ∀ key symbol, (key, Word.symbol symbol) ∈ node.attrs → other .notAText) :
    Fails (ReportedOr other) (operatorOf definition node) := by
  refine .bind (.mapM fun attr member => fails_parseAttribute fun name same => ?_) fun attrs _ => ?_
  · exact symbol attr.1 name (by rwa [← same])
  · split
    · exact .ok _
    · exact .error (.reported _)

theorem fails_nodeParts [DescriptionReader] (registry : Registry) (declared : Declared)
    (node : NodeDescription)
    (symbol : ∀ key symbol, (key, Word.symbol symbol) ∈ node.attrs → other .notAText) :
    Fails (ReportedOr other) (nodeParts registry declared node) := by
  refine .bind (fails_requireFresh declared node.name) fun _ _ => .bind ?_ fun definition _ =>
    .bind ?_ fun producers _ => .bind (fails_operatorOf definition node symbol) fun operator _ => .ok _
  · unfold definitionOf
    split
    · exact .error (.reported _)
    · split
      · exact .error (.reported _)
      · exact .ok _
  · unfold producersOf
    dsimp only
    split
    · exact .ok _
    · exact .error (.reported _)

/-- Only a parameter that reads something is refused. -/
theorem create_ne_error {store grown : Store} {operator : Operator} {producers : List Nat}
    {name : Option String} {failure : Failure}
    (reads : operator.isParameter = true → producers = []) :
    store.create operator producers name ≠ (grown, .error failure) := by
  intro refused
  unfold Store.create at refused
  dsimp only at refused
  split at refused
  next parameter =>
    obtain ⟨parameter, reading⟩ := Bool.and_eq_true_iff.mp parameter
    rw [reads parameter] at reading
    cases reading
  · cases refused

theorem fails_declareInputs (store : Store) (declared : Declared) (inputs : List InputDescription)
    (symbol : ∀ input ∈ inputs, ∀ symbol, input.shape = .symbol symbol → other .notAText) :
    Fails (ReportedOr other) (declareInputs store declared inputs).2 := by
  induction inputs generalizing store declared with
  | nil => exact .ok _
  | cons input inputs ih =>
    have operator : Fails (ReportedOr other) (inputOperator declared input) :=
      .bind (fails_requireFresh declared input.name) fun _ _ =>
        .bind (fails_inputType input (symbol input List.mem_cons_self)) fun type _ => .ok _
    rw [declareInputs]
    split
    next failure refused => exact .error (operator failure refused)
    next made found =>
      split
      next failure created =>
        -- A parameter that reads nothing is not refused.
        simp only [inputOperator, Outcome.bind_eq_ok, Outcome.pure_eq_ok] at found
        obtain ⟨-, -, type, -, rfl⟩ := found
        exact absurd created (create_ne_error fun _ => rfl)
      next grown id created =>
        exact ih _ _ fun input later => symbol input (List.mem_cons_of_mem _ later)

theorem inputType_of_declareInputs {store final : Store} {declared declared' : Declared}
    {inputs : List InputDescription}
    (succeeded : declareInputs store declared inputs = (final, .ok declared')) :
    ∀ input ∈ inputs, ∃ type, inputType input = .ok type := by
  induction inputs generalizing store declared with
  | nil => exact nofun
  | cons input inputs ih =>
    rw [declareInputs] at succeeded
    split at succeeded
    · cases succeeded
    next operator found =>
      simp only [inputOperator, Outcome.bind_eq_ok, Outcome.pure_eq_ok] at found
      obtain ⟨-, -, type, typed, -⟩ := found
      split at succeeded
      · cases succeeded
      · exact List.forall_mem_cons.mpr ⟨⟨type, typed⟩, ih succeeded⟩

theorem fails_declareNodes [DescriptionReader] (registry : Registry) (store : Store)
    (declared : Declared) (nodes : List NodeDescription)
    (symbol : ∀ node ∈ nodes, ∀ key symbol, (key, Word.symbol symbol) ∈ node.attrs →
      other .notAText) :
    Fails (ReportedOr other) (declareNodes registry store declared nodes).2 := by
  induction nodes generalizing store declared with
  | nil => exact .ok _
  | cons node nodes ih =>
    have parts := fails_nodeParts registry declared node (symbol node List.mem_cons_self)
    rw [declareNodes]
    split
    next failure refused => exact .error (parts failure refused)
    next operator producers found =>
      split
      next failure created =>
        -- Nor is an operation, and no class makes anything else.
        simp only [nodeParts, Outcome.bind_eq_ok, Outcome.pure_eq_ok, Prod.mk.injEq] at found
        obtain ⟨-, -, definition, known, reads, -, operator, built, rfl, rfl⟩ := found
        have operation := isParameter_of_operatorOf built
        refine absurd created (create_ne_error fun parameter => ?_)
        rw [operation] at parameter
        cases parameter
      next grown id created =>
        exact ih _ _ fun node later => symbol node (List.mem_cons_of_mem _ later)

/-! ### Names -/

/-- Declared nodes have the names that they were declared with, and no text was declared twice. -/
structure IsNamed (store : Store) (declared : Declared) : Prop where
  stored : ∀ entry ∈ declared, (store.find? entry.2).map Node.name = some entry.1.written
  once : ∀ name, (declared.map Prod.fst).count (.text name) ≤ 1

namespace IsNamed

variable {store final : Store} {declared declared' : Declared}

theorem create {grown : Store} {operator : Operator} {producers : List Nat} {word : Word} {id : Nat}
    (named : IsNamed store declared) (fresh : requireFresh declared word = .ok ())
    (created : store.create operator producers (some word.written) = (grown, .ok id)) :
    IsNamed grown ((word, id) :: declared) := by
  obtain ⟨found, -, grows⟩ := Store.create_eq_ok created
  refine ⟨fun entry member => ?_, fun name => ?_⟩
  · rcases List.mem_cons.mp member with rfl | earlier
    · rw [found]
      rfl
    · obtain ⟨node, held, named⟩ := Option.map_eq_some_iff.mp (named.stored entry earlier)
      rw [grows _ node held]
      exact congrArg some named
  · rw [List.map_cons]
    by_cases same : word = .text name
    · subst same
      have absent : Word.text name ∉ declared.map Prod.fst := by
        intro member
        obtain ⟨entry, among, same⟩ := List.mem_map.mp member
        rw [requireFresh] at fresh
        split at fresh
        · cases fresh
        next missing =>
          have unknown := List.lookup_eq_none_iff.mp (Option.not_isSome_iff_eq_none.mp missing)
          simpa [same] using unknown entry among
      rw [List.count_cons_self, List.count_eq_zero.mpr absent]
    · rw [List.count_cons_of_ne same]
      exact named.once name

theorem declareInputs {inputs : List InputDescription} (named : IsNamed store declared)
    (succeeded : declareInputs store declared inputs = (final, .ok declared')) :
    IsNamed final declared' ∧ declared'.map Prod.fst =
      (inputs.map InputDescription.name).reverse ++ declared.map Prod.fst := by
  induction inputs generalizing store declared with
  | nil =>
    cases succeeded
    exact ⟨named, rfl⟩
  | cons input inputs ih =>
    rw [Description.declareInputs] at succeeded
    split at succeeded
    · cases succeeded
    next operator found =>
      simp only [inputOperator, Outcome.bind_eq_ok, Outcome.exists_unit] at found
      split at succeeded
      · cases succeeded
      next grown id created =>
        obtain ⟨known, listed⟩ := ih (named.create found.1 created) succeeded
        exact ⟨known, by simp [listed]⟩

theorem declareNodes [DescriptionReader] {registry : Registry} {nodes : List NodeDescription}
    (named : IsNamed store declared)
    (succeeded : declareNodes registry store declared nodes = (final, .ok declared')) :
    IsNamed final declared' ∧ declared'.map Prod.fst =
      (nodes.map NodeDescription.name).reverse ++ declared.map Prod.fst := by
  induction nodes generalizing store declared with
  | nil =>
    cases succeeded
    exact ⟨named, rfl⟩
  | cons node nodes ih =>
    rw [Description.declareNodes] at succeeded
    split at succeeded
    · cases succeeded
    next operator producers found =>
      simp only [nodeParts, Outcome.bind_eq_ok, Outcome.exists_unit] at found
      split at succeeded
      · cases succeeded
      next grown id created =>
        obtain ⟨known, listed⟩ := ih (named.create found.1 created) succeeded
        exact ⟨known, by simp [listed]⟩

end IsNamed

section Declared

variable [DescriptionReader] {registry : Registry} {initial first store : Store}
  {description : Description}
  {inputs declared : Declared}
  (declaredInputs : declareInputs initial [] description.inputs = (first, .ok inputs))
  (declaredNodes : declareNodes registry first inputs description.nodes = (store, .ok declared))

include declaredInputs declaredNodes

theorem isNamed_declared :
    IsNamed store declared ∧ declared.map Prod.fst = description.names.reverse := by
  obtain ⟨known, listed⟩ := IsNamed.declareInputs ⟨by simp, by simp⟩ declaredInputs
  obtain ⟨named, listed'⟩ := known.declareNodes declaredNodes
  refine ⟨named, ?_⟩
  rw [listed', listed]
  simp [names]

theorem map_name_declared :
    (ids declared).reverse.map store.name = description.names.map Word.written := by
  obtain ⟨named, listed⟩ := isNamed_declared declaredInputs declaredNodes
  have byId : (ids declared).map store.name = (declared.map Prod.fst).map Word.written := by
    rw [ids, List.map_map, List.map_map]
    refine List.map_congr_left fun entry member => ?_
    obtain ⟨node, held, same⟩ := Option.map_eq_some_iff.mp (named.stored entry member)
    rw [Function.comp_apply, Store.name, Store.node_of_find? _ _ _ held, same]
    rfl
  rw [List.map_reverse, byId, listed, List.map_reverse, List.reverse_reverse]

end Declared

/-- Where no text is declared twice, a repeated name is that of a symbol. -/
theorem spoils_of_repeated {description : Description} {name : String}
    (once : ∀ text, description.names.count (.text text) ≤ 1)
    (repeated : Graph.firstRepeated? [] (description.names.map Word.written) = some name) :
    Spoils description (.duplicateNodeName name) := by
  obtain ⟨before, after, split, -, earlier | earlier⟩ := Graph.firstRepeated?_eq_some repeated
  · have twice : 2 ≤ (description.names.map Word.written).count name := by
      have first := List.count_pos_iff.mpr earlier
      rw [split, List.count_append, List.count_cons_self]
      omega
    refine .name (Classical.byContradiction fun absent => ?_) twice
    -- All that is written like this is the text, which stands there only once.
    have texts : (description.names.map Word.written).count name ≤
        description.names.count (.text name) := by
      rw [List.count, List.count, List.countP_map]
      refine List.countP_mono_left fun word member same => ?_
      cases word with
      | text text => simpa [Word.written] using same
      | symbol symbol =>
        obtain rfl : symbol = name := by simpa [Word.written] using same
        exact absurd member absent
    have := once name
    omega
  · cases earlier

/-! ### Loading -/

theorem fails_outputsOf (declared : Declared) (description : Description) :
    Fails (ReportedOr (Spoils description)) (outputsOf declared description) := by
  have outputs : Fails (ReportedOr (Spoils description)) description.outputNames := by
    unfold outputNames
    split
    · exact .bind (.ok _) fun names _ => .ok _
    next omitted =>
      refine .bind (.mapM fun name member => fails_textOf fun symbol same => ?_) fun names _ => .ok _
      exact .output omitted (same ▸ member)
  refine .bind outputs fun names _ => ?_
  split
  · exact .ok _
  · exact .error (.reported _)

variable [DescriptionReader]

theorem fails_assemble {registry : Registry} {initial first store : Store}
    {description : Description} {inputs declared : Declared}
    (declaredInputs : declareInputs initial [] description.inputs = (first, .ok inputs))
    (declaredNodes : declareNodes registry first inputs description.nodes = (store, .ok declared)) :
    Fails (ReportedOr (Spoils description)) (assemble store declared description) := by
  obtain ⟨named, words⟩ := isNamed_declared declaredInputs declaredNodes
  have written := map_name_declared declaredInputs declaredNodes
  obtain ⟨later, rfl, -, parameters, -, counted⟩ :=
    declares_of_declared (gives_operations registry) declaredInputs declaredNodes
  have shown : (later ++ inputs).reverse.map Prod.snd = (ids (later ++ inputs)).reverse :=
    List.map_reverse
  refine .bind (fails_outputsOf _ description) fun outputs _ => ?_
  dsimp only
  rw [shown]
  -- Of the two checks on the graph the second is always passed.
  refine .bind ?_ fun graph added => .bind ?_ fun graph _ => .ok _
  · intro failure refused
    unfold Graph.addNodes at refused
    split at refused
    next name repeated =>
      cases refused
      refine .other (spoils_of_repeated (fun text => ?_) ?_)
      · have once := named.once text
        rwa [words, List.count_reverse] at once
      · rw [written] at repeated
        exact repeated
    · cases refused
  · intro failure refused
    rw [take_declared counted, Graph.setInputs, if_pos] at refused
    · cases refused
    · exact List.all_eq_true.mpr fun id member => parameters id (List.mem_reverse.mp member)

theorem fails_build (registry : Registry) (store : Store) (description : Description) :
    Fails (ReportedOr (Spoils description)) (description.build registry store).2 := by
  have inputs := fails_declareInputs store [] description.inputs fun input declared symbol shape =>
    Spoils.shape declared shape
  unfold build
  split
  next first failure refused =>
    rw [refused] at inputs
    exact .error (inputs failure rfl)
  next first declared declaredInputs =>
    have nodes := fails_declareNodes registry first declared description.nodes
      fun node listed key symbol given => Spoils.attr listed given
    split
    next second failure refused =>
      rw [refused] at nodes
      exact .error (nodes failure rfl)
    next second declared' declaredNodes => exact fails_assemble declaredInputs declaredNodes

/-! ### Descriptions that are built -/

theorem operatorOf_of_declareNodes {registry : Registry} {store final : Store}
    {declared declared' : Declared} {nodes : List NodeDescription}
    (succeeded : declareNodes registry store declared nodes = (final, .ok declared')) :
    ∀ node ∈ nodes, ∃ definition operator, operatorOf definition node = .ok operator := by
  induction nodes generalizing store declared with
  | nil => exact nofun
  | cons node nodes ih =>
    rw [declareNodes] at succeeded
    split at succeeded
    · cases succeeded
    next operator producers found =>
      simp only [nodeParts, Outcome.bind_eq_ok, Outcome.pure_eq_ok, Prod.mk.injEq] at found
      obtain ⟨-, -, definition, -, _, -, made, built, -, -⟩ := found
      split at succeeded
      · cases succeeded
      · exact List.forall_mem_cons.mpr ⟨⟨definition, made, built⟩, ih succeeded⟩

/-- No symbol spoils a description that was built. -/
theorem not_spoils_of_build {registry : Registry} {initial store : Store}
    {description : Description} {graph : Graph}
    (built : description.build registry initial = (store, .ok graph)) (failure : Failure) :
    ¬Spoils description failure := by
  intro spoils
  obtain ⟨first, inputs, declared, declaredInputs, declaredNodes, assembled⟩ := build_eq_ok built
  cases spoils with
  | shape listed shape =>
    obtain ⟨type, typed⟩ := inputType_of_declareInputs declaredInputs _ listed
    rw [inputType, shape] at typed
    cases typed
  | attr listed given =>
    obtain ⟨definition, operator, made⟩ := operatorOf_of_declareNodes declaredNodes _ listed
    obtain ⟨attrs, parsed, -⟩ := (Outcome.bind_eq_ok _ _ _).mp made
    obtain ⟨_, -, parsed⟩ := Outcome.forall₂_mem_left
      ((Outcome.mapM_eq_ok_iff _ _ _).mp parsed) _ given
    cases parsed
  | output omitted unread =>
    obtain ⟨outputs, chosen, -⟩ := (Outcome.bind_eq_ok _ _ _).mp assembled
    obtain ⟨names, listed, -⟩ := (Outcome.bind_eq_ok _ _ _).mp chosen
    rw [outputNames, omitted] at listed
    obtain ⟨texts, read, -⟩ := (Outcome.bind_eq_ok _ _ _).mp listed
    obtain ⟨_, -, read⟩ := Outcome.forall₂_mem_left ((Outcome.mapM_eq_ok_iff _ _ _).mp read) _ unread
    cases read
  | @name symbol _ twice =>
    have distinct := (assemble_eq_ok assembled).1
    rw [map_name_declared declaredInputs declaredNodes] at distinct
    have once := List.nodup_iff_count_le_one.mp distinct symbol
    omega

/-- Why loading a text can fail without a report: the reader refuses it, although not for its form,
something blocks the reading of its contents, or a symbol spoils the description that it holds. -/
inductive Escapes (text : String) : Failure → Prop
  | markup {fault : MarkupFault} (refused : DescriptionReader.contents text = .error fault)
    (unlike : fault ≠ .misfit) : Escapes text (.markup fault)
  | blocked {content : Content} {failure : Failure}
    (marked : DescriptionReader.contents text = .ok (some content))
    (blocked : Blocks content failure) : Escapes text failure
  | spoiled {description : Description} {failure : Failure} (read : ofText text = .ok description)
    (spoiled : Spoils description failure) : Escapes text failure

theorem fails_ofText (text : String) : Fails (ReportedOr (Escapes text)) (ofText text) := by
  unfold ofText
  refine .mapError ?_
  have unlike : ¬Escapes text (.markup .misfit) := by
    intro escapes
    cases escapes with
    | markup refused unlike => exact unlike rfl
    | blocked marked blocked => cases blocked
    | spoiled read spoiled => cases spoiled
  split
  next fault refused =>
    refine .error (explained unlike ?_)
    by_cases form : fault = .misfit
    · rw [form]
      exact .misfit
    · exact .other (.markup refused form)
  next contents marked =>
    intro failure failed
    refine explained unlike ?_
    unfold ofContents at failed
    split at failed
    · cases failed
      exact .misfit
    · cases failed
      exact .misfit
    next content _ =>
      rcases fails_ofMarkup content failure failed with _ | cause
      · exact .misfit
      · exact .other (.blocked marked cause)

theorem ofText_eq_ok {text : String} {description : Description}
    (read : ofText text = .ok description) :
    ∃ content, DescriptionReader.contents text = .ok (some content) ∧
      ofMarkup content = .ok description := by
  unfold ofText at read
  split at read
  · cases read
  next contents marked =>
    unfold ofContents at read
    split at read
    · cases read
    · cases read
    next content _ =>
      refine ⟨content, marked, ?_⟩
      cases whole : ofMarkup content with
      | error failure =>
        rw [whole] at read
        cases read
      | ok made =>
        rw [whole] at read
        cases read
        rfl

/-- What escapes is never passed over. -/
theorem not_escapes_of_load {registry : Registry} {initial store : Store} {text : String}
    {graph : Graph} (loaded : load registry initial text = (store, .ok graph)) (failure : Failure) :
    ¬Escapes text failure := by
  intro escapes
  obtain ⟨description, read, built⟩ := load_eq_ok loaded
  have contents := ofText_eq_ok read
  cases escapes with
  | markup refused unlike =>
    obtain ⟨content, marked, -⟩ := contents
    cases refused.symm.trans marked
  | blocked marked blocked =>
    obtain ⟨content, marked', whole⟩ := contents
    cases marked.symm.trans marked'
    exact not_blocks_of_read whole failure blocked
  | spoiled read' spoiled =>
    cases read'.symm.trans read
    exact not_spoils_of_build built failure spoiled

theorem fails_load (registry : Registry) (store : Store) (text : String) :
    Fails (ReportedOr (Escapes text)) (load registry store text).2 := by
  unfold load
  split
  next failure refused => exact .error (fails_ofText text failure refused)
  next description read =>
    intro failure failed
    rcases fails_build registry store description failure failed with fault | cause
    · exact .reported fault
    · exact .other (.spoiled read cause)

end OpGraph.Description
