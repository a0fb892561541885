import OpGraph.Proofs.Builder.Declaring

/-!
# Descriptions and builders

A description whose outputs are left out can be built by hand: in one block, the parameters and
then the operations, in the order of their declaration. Loading it creates the same nodes, and it
gives the same graph just when no name of an operation that is not read has blanks around it
(`load_of_valid`). The names of such operations are trimmed before they are looked up, so that
otherwise another node is found, or none.

Proof strategy: a description stands for a row of nodes. Loading appends this row to the store
(`declareInputs_eq`, `declareNodes_eq`), and so does the block.
-/
namespace OpGraph

open Markup (Word)

namespace Description

/-- The names that the nodes of a description read, one node after the other. -/
def readNames (description : Description) : List Word :=
  (description.nodes.flatMap (·.inputs)).map fun name => .text (Text.strip name)

/-- The number of the node with a name, where the nodes are numbered from `base` on. -/
def numberOf (names : List Word) (base : Nat) (name : Word) : Nat :=
  base + names.idxOf name

def inputNode (input : InputDescription) (type : TensorType) : Node :=
  .made input.name.written (.parameter type) []

def operationNode (names : List Word) (base : Nat) (node : NodeDescription) (operator : Operator) :
    Node :=
  .made node.name.written operator
    (node.inputs.map fun name => numberOf names base (.text (Text.strip name)))

/-- The nodes that a description stands for: its inputs, and then its operations, each reading the
nodes that it names. -/
def row (description : Description) (base : Nat) (types : List TensorType)
    (operators : List Operator) : List Node :=
  List.zipWith inputNode description.inputs types ++
    List.zipWith (operationNode description.names base) description.nodes operators

/-- A description without outputs, whose names are distinct texts, whose inputs have types, whose
operations have operators of registered kinds, and in which every operation names only nodes that
are declared before it. -/
structure IsValid [DescriptionReader] (registry : Registry) (description : Description)
    (types : List TensorType) (operators : List Operator) : Prop where
  outputs : description.outputs = none
  texts : ∀ word ∈ description.names, ∃ name, word = .text name
  distinct : description.names.Nodup
  types : List.Forall₂ (fun input type => inputType input = .ok type) description.inputs types
  operators : List.Forall₂ (fun node operator => ∃ definition,
    definitionOf registry node = .ok definition ∧ operatorOf definition node = .ok operator)
    description.nodes operators
  declared : ∀ position node, description.nodes[position]? = some node → ∀ name ∈ node.inputs,
    Word.text (Text.strip name) ∈ description.names.take (description.inputs.length + position)

/-! ### Names and numbers -/

/-- The declarations of names, numbered from `base` on. -/
def numbered (base : Nat) (names : List Word) : Declared :=
  (names.zipIdx base).reverse

theorem numbered_append (base : Nat) (names : List Word) (name : Word) :
    numbered base (names ++ [name]) = (name, base + names.length) :: numbered base names := by
  simp [numbered, List.zipIdx_append]

theorem map_numberOf (base : Nat) {names : List Word} (distinct : names.Nodup) :
    names.map (numberOf names base) = List.range' base names.length := by
  refine List.ext_getElem (by simp) fun position _ _ => ?_
  simp [numberOf, distinct.idxOf_getElem]

theorem numberOf_inj {names : List Word} (base : Nat) {name other : Word} (member : name ∈ names) :
    numberOf names base name = numberOf names base other ↔ name = other := by
  rw [numberOf, numberOf, Nat.add_left_cancel_iff, List.idxOf_inj member]

theorem lookup_numbered (base : Nat) (names : List Word) (distinct : names.Nodup) (name : Word) :
    (numbered base names).lookup name =
      if name ∈ names then some (numberOf names base name) else none := by
  induction names generalizing base with
  | nil => rfl
  | cons first names ih =>
    obtain ⟨fresh, rest⟩ := List.nodup_cons.mp distinct
    have split : numbered base (first :: names) = numbered (base + 1) names ++ [(first, base)] := by
      simp [numbered]
    -- Declarations stand in reverse, so the first name is looked at last.
    rw [split, List.lookup_append, ih (base + 1) rest]
    by_cases later : name ∈ names
    · have different : first ≠ name := fun same => fresh (same ▸ later)
      rw [if_pos later, if_pos (List.mem_cons_of_mem _ later), numberOf, numberOf,
        List.idxOf_cons_ne _ different]
      simp [Nat.add_comm, Nat.add_left_comm]
    · rw [if_neg later, Option.none_or]
      by_cases same : name = first
      · subst same
        simp [numberOf]
      · have refused : (name == first) = false := beq_false_of_ne same
        simp [same, later, List.lookup_cons, refused]

theorem findDeclared?_numbered (base : Nat) {names : List Word} (distinct : names.Nodup)
    (name : String) :
    findDeclared? (numbered base names) name =
      if Word.text name ∈ names then some (numberOf names base (.text name)) else none :=
  lookup_numbered base names distinct (.text name)

theorem isDeclared_numbered (base : Nat) {names : List Word} (distinct : names.Nodup)
    (name : String) : isDeclared (numbered base names) name = names.contains (.text name) := by
  rw [isDeclared, findDeclared?_numbered base distinct, List.contains_eq_mem]
  split <;> simp_all

theorem requireFresh_numbered (base : Nat) {names : List Word} (distinct : names.Nodup) {name : Word}
    (fresh : name ∉ names) : requireFresh (numbered base names) name = .ok () := by
  cases name with
  | text name => rw [requireFresh, isDeclared_numbered base distinct]; simp [fresh]
  | symbol name => rfl

/-! ### Loading -/

theorem isFresh_made (name : String) {operator : Operator} {producers : List Nat}
    (reads : operator.isParameter = true → producers = []) :
    (Node.made name operator producers).IsFresh :=
  ⟨rfl, reads⟩

theorem declareInputs_eq (store : Store) (done : List Word) {inputs : List InputDescription}
    {types : List TensorType}
    (typed : List.Forall₂ (fun input type => inputType input = .ok type) inputs types)
    (before : List Node) (counted : before.length = done.length)
    (distinct : (done ++ inputs.map InputDescription.name).Nodup) :
    declareInputs (store.append before) (numbered store.slots.size done) inputs =
      (store.append (before ++ List.zipWith inputNode inputs types),
        .ok (numbered store.slots.size (done ++ inputs.map InputDescription.name))) := by
  -- On the inputs, with the nodes that were made and the names that were declared before them.
  induction typed generalizing done before with
  | nil => simp [declareInputs]
  | @cons input type inputs types typed _ ih =>
    have whole : done ++ (input :: inputs).map InputDescription.name =
        (done ++ [input.name]) ++ inputs.map InputDescription.name := by simp
    rw [whole] at distinct ⊢
    have earlier := List.nodup_append.mp (List.nodup_append.mp distinct).1
    have fresh : input.name ∉ done := fun member =>
      earlier.2.2 _ member _ List.mem_cons_self rfl
    have operator : inputOperator (numbered store.slots.size done) input = .ok (.parameter type) := by
      rw [inputOperator, requireFresh_numbered _ earlier.1 fresh, typed]
      rfl
    have created : (store.append before).create (.parameter type) [] (some input.name.written) =
        (store.append (before ++ [inputNode input type]), .ok (store.slots.size + done.length)) := by
      rw [← counted]
      exact store.create_append (isFresh_made _ fun _ => rfl) before
    rw [declareInputs, operator]
    dsimp only
    rw [created]
    dsimp only
    rw [← numbered_append, ih (done ++ [input.name]) _ (by simp [counted]) distinct]
    simp

/-- Names that are declared are found under their numbers. -/
theorem filterMap_findDeclared? (base : Nat) {names : List Word} (distinct : names.Nodup)
    {written : List String} (declared : ∀ name ∈ written, Word.text name ∈ names) :
    written.filterMap (findDeclared? (numbered base names)) =
      written.map fun name => numberOf names base (.text name) := by
  rw [← List.filterMap_eq_map]
  refine List.filterMap_congr fun name member => ?_
  rw [findDeclared?_numbered base distinct, if_pos (declared name member), Function.comp_apply]

/-- A node that names only what is declared reads it under its number. -/
theorem producersOf_numbered (base : Nat) {done later : List Word} (distinct : (done ++ later).Nodup)
    {node : NodeDescription}
    (declared : ∀ name ∈ node.inputs, Word.text (Text.strip name) ∈ done) :
    producersOf (numbered base done) node =
      .ok (node.inputs.map fun name => numberOf (done ++ later) base (.text (Text.strip name))) := by
  have known := (List.nodup_append.mp distinct).1
  have read : ∀ name ∈ node.inputs.map Text.strip, Word.text name ∈ done := by
    simpa using declared
  have none : (node.inputs.map Text.strip).filter
      (fun name => !isDeclared (numbered base done) name) = [] := by
    refine List.filter_eq_nil_iff.mpr fun name member => ?_
    simp [isDeclared_numbered base known, read name member]
  rw [producersOf, none, filterMap_findDeclared? base known read, List.map_map]
  refine congrArg Except.ok (List.map_congr_left fun name member => ?_)
  rw [Function.comp_apply, numberOf, numberOf, List.idxOf_append_of_mem (declared name member)]

theorem declareNodes_eq [DescriptionReader] (registry : Registry) (store : Store)
    (done : List Word) {nodes : List NodeDescription} {operators : List Operator}
    (made : List.Forall₂ (fun node operator => ∃ definition,
      definitionOf registry node = .ok definition ∧ operatorOf definition node = .ok operator)
      nodes operators)
    (before : List Node) (counted : before.length = done.length)
    (distinct : (done ++ nodes.map NodeDescription.name).Nodup)
    (declared : ∀ position node, nodes[position]? = some node → ∀ name ∈ node.inputs,
      Word.text (Text.strip name) ∈
        (done ++ nodes.map NodeDescription.name).take (done.length + position)) :
    declareNodes registry (store.append before) (numbered store.slots.size done) nodes =
      (store.append (before ++ List.zipWith
          (operationNode (done ++ nodes.map NodeDescription.name) store.slots.size) nodes operators),
        .ok (numbered store.slots.size (done ++ nodes.map NodeDescription.name))) := by
  induction made generalizing done before with
  | nil => simp [declareNodes]
  | @cons node operator nodes operators made _ ih =>
    obtain ⟨definition, known, built⟩ := made
    have whole : done ++ (node :: nodes).map NodeDescription.name =
        (done ++ [node.name]) ++ nodes.map NodeDescription.name := by simp
    rw [whole] at distinct declared ⊢
    have earlier := List.nodup_append.mp (List.nodup_append.mp distinct).1
    have fresh : node.name ∉ done := fun member => earlier.2.2 _ member _ List.mem_cons_self rfl
    have reads : ∀ name ∈ node.inputs, Word.text (Text.strip name) ∈ done := by
      intro name member
      simpa using declared 0 node rfl name member
    have operation : operator.isParameter = false :=
      isParameter_of_operatorOf built
    let made := operationNode ((done ++ [node.name]) ++ nodes.map NodeDescription.name)
      store.slots.size node operator
    have parts : nodeParts registry (numbered store.slots.size done) node =
        .ok (operator, made.producers) := by
      rw [nodeParts, requireFresh_numbered _ earlier.1 fresh, known,
        producersOf_numbered _ (by rwa [List.append_assoc] at distinct) reads, ← List.append_assoc]
      simp only [Outcome.ok_bind, built]
      rfl
    have created : (store.append before).create operator made.producers (some node.name.written) =
        (store.append (before ++ [made]), .ok (store.slots.size + done.length)) := by
      rw [← counted]
      refine store.create_append (isFresh_made _ fun parameter => ?_) before
      rw [operation] at parameter
      cases parameter
    rw [declareNodes, parts]
    dsimp only
    rw [created]
    dsimp only
    rw [← numbered_append, ih (done ++ [node.name]) _ (by simp [counted]) distinct ?_]
    · simp [made]
    · -- The names declared before the other nodes now include the one of this node.
      intro position other found name member
      have shifted := declared (position + 1) other (by simpa using found) name member
      have counted' : done.length + (position + 1) = (done ++ [node.name]).length + position := by
        simp only [List.length_append, List.length_singleton]
        omega
      rwa [counted'] at shifted

theorem map_zipWith_left {α β γ δ : Type} {make : α → β → γ} {ofMade : γ → δ} {ofLeft : α → δ}
    (same : ∀ a b, ofMade (make a b) = ofLeft a) {as : List α} {bs : List β}
    (counted : as.length = bs.length) : (List.zipWith make as bs).map ofMade = as.map ofLeft := by
  induction as generalizing bs with
  | nil => rfl
  | cons a as ih =>
    cases bs with
    | nil => cases counted
    | cons b bs => simp [same, ih (Nat.succ.inj counted)]

/-! ### The row of a valid description -/

namespace IsValid

variable [DescriptionReader] {registry : Registry} {description : Description}
  {types : List TensorType} {operators : List Operator}
  (valid : IsValid registry description types operators)

include valid

theorem length_row (base : Nat) :
    (description.row base types operators).length = description.names.length := by
  simp [row, names, valid.types.length_eq, valid.operators.length_eq]

theorem map_name_row (base : Nat) :
    (description.row base types operators).map Node.name = description.names.map Word.written := by
  rw [row, names, List.map_append, List.map_append, List.map_map, List.map_map]
  refine congrArg₂ (· ++ ·) (map_zipWith_left ?_ valid.types.length_eq)
    (map_zipWith_left ?_ valid.operators.length_eq) <;> exact fun _ _ => rfl

theorem map_producers_row (base : Nat) :
    (description.row base types operators).map Node.producers =
      description.inputs.map (fun _ => []) ++ description.nodes.map fun node =>
        node.inputs.map fun name => numberOf description.names base (.text (Text.strip name)) := by
  rw [row, List.map_append]
  refine congrArg₂ (· ++ ·) (map_zipWith_left ?_ valid.types.length_eq)
    (map_zipWith_left ?_ valid.operators.length_eq) <;> exact fun _ _ => rfl

theorem written_injective {word word' : Word} (member : word ∈ description.names)
    (member' : word' ∈ description.names) (same : word.written = word'.written) : word = word' := by
  obtain ⟨name, rfl⟩ := valid.texts word member
  obtain ⟨name', rfl⟩ := valid.texts word' member'
  exact congrArg Word.text same

theorem getElem?_operations (base : Nat) {position : Nat} {node : Node}
    (found : (List.zipWith (operationNode description.names base) description.nodes
      operators)[position]? = some node) :
    ∃ declared operator, description.nodes[position]? = some declared ∧
      operator.isParameter = false ∧
      node = operationNode description.names base declared operator := by
  obtain ⟨declared, operator, atNode, atOperator, rfl⟩ := List.getElem?_zipWith_eq_some.mp found
  have paired : (declared, operator) ∈ description.nodes.zip operators :=
    List.mem_of_getElem? (List.getElem?_zip_eq_some.mpr ⟨atNode, atOperator⟩)
  obtain ⟨definition, known, built⟩ := List.forall₂_zip valid.operators paired
  exact ⟨declared, operator, atNode, isParameter_of_operatorOf built, rfl⟩

theorem isListing (base : Nat) :
    Node.IsListing base (List.zipWith inputNode description.inputs types)
      (List.zipWith (operationNode description.names base) description.nodes operators) := by
  have counted : (List.zipWith inputNode description.inputs types).length =
      description.inputs.length := by
    simp [valid.types.length_eq]
  refine ⟨fun position node found => ?_, fun node member => ?_, fun node member => ?_, ?_⟩
  · -- An input reads nothing, and an operation names only what is declared before it.
    by_cases inside : position < description.inputs.length
    · rw [List.getElem?_append_left (counted ▸ inside)] at found
      obtain ⟨input, type, -, -, rfl⟩ := List.getElem?_zipWith_eq_some.mp found
      exact ⟨isFresh_made _ fun _ => rfl, fun p read => absurd read List.not_mem_nil⟩
    · rw [List.getElem?_append_right (counted ▸ Nat.le_of_not_lt inside), counted] at found
      obtain ⟨declared, operator, atNode, operation, rfl⟩ := valid.getElem?_operations base found
      refine ⟨isFresh_made _ fun parameter => ?_, fun p read => ?_⟩
      · rw [operation] at parameter
        cases parameter
      · obtain ⟨name, among, rfl⟩ := List.mem_map.mp read
        have earlier := valid.declared _ _ atNode name among
        rw [Nat.add_sub_cancel' (Nat.le_of_not_lt inside)] at earlier
        refine ⟨Nat.le_add_right _ _, Nat.add_lt_add_left ?_ base⟩
        rw [← List.take_append_drop position description.names, List.idxOf_append_of_mem earlier]
        exact (List.idxOf_lt_length_of_mem earlier).trans_le (List.length_take_le _ _)
  · obtain ⟨position, found⟩ := List.getElem?_of_mem member
    obtain ⟨input, type, -, -, rfl⟩ := List.getElem?_zipWith_eq_some.mp found
    rfl
  · obtain ⟨position, found⟩ := List.getElem?_of_mem member
    obtain ⟨declared, operator, -, operation, rfl⟩ := valid.getElem?_operations base found
    exact operation
  · have named := valid.map_name_row base
    rw [row] at named
    rw [named]
    exact valid.distinct.map_on fun _ member _ member' => valid.written_injective member member'

/-! ### The nodes of the row -/

section Stored

variable (store : Store)

theorem name_numberOf {name : Word} (member : name ∈ description.names) :
    (store.append (description.row store.slots.size types operators)).name
      (numberOf description.names store.slots.size name) = name.written := by
  have byNumber : (List.range' store.slots.size description.names.length).map
      (store.append (description.row store.slots.size types operators)).name =
        description.names.map Word.written := by
    rw [← valid.map_name_row store.slots.size, ← valid.length_row store.slots.size]
    refine Node.map_range' _ _ _ fun position node found => ?_
    rw [Store.name, Node.node_append found]
  rw [← map_numberOf _ valid.distinct, List.map_map] at byNumber
  exact List.map_inj_left.mp byNumber name member

/-- What the nodes of the row read, one after the other. -/
theorem flatMap_producers :
    (List.range' store.slots.size description.names.length).flatMap
        (store.append (description.row store.slots.size types operators)).producers =
      description.readNames.map (numberOf description.names store.slots.size) := by
  have byNumber : (List.range' store.slots.size description.names.length).map
      (store.append (description.row store.slots.size types operators)).producers =
        (description.row store.slots.size types operators).map Node.producers := by
    rw [← valid.length_row store.slots.size]
    refine Node.map_range' _ _ _ fun position node found => ?_
    rw [Store.producers, Node.node_append found]
  rw [List.flatMap_def, byNumber, valid.map_producers_row]
  simp [readNames, List.flatMap_def, List.map_flatten, Function.comp_def]

theorem isParameter_input {name : Word}
    (member : name ∈ description.inputs.map InputDescription.name) :
    (store.append (description.row store.slots.size types operators)).isParameter
      (numberOf description.names store.slots.size name) = true := by
  rw [numberOf, names, List.idxOf_append_of_mem member]
  refine (valid.isListing store.slots.size).isParameter_input ?_
  simpa [← valid.types.length_eq] using List.idxOf_lt_length_of_mem member

theorem isParameter_node {name : Word} (member : name ∈ description.nodes.map NodeDescription.name) :
    (store.append (description.row store.slots.size types operators)).isParameter
      (numberOf description.names store.slots.size name) = false := by
  have other : name ∉ description.inputs.map InputDescription.name := fun input =>
    (List.nodup_append.mp valid.distinct).2.2 _ input _ member rfl
  have counted : (List.zipWith inputNode description.inputs types).length =
      (description.inputs.map InputDescription.name).length := by
    simp [← valid.types.length_eq]
  rw [numberOf, names, List.idxOf_append_of_notMem other, ← counted]
  refine (valid.isListing store.slots.size).isParameter_operation ?_
  simpa [← valid.operators.length_eq] using List.idxOf_lt_length_of_mem member

/-- The operations of the row that are not read are those whose names are not read. -/
theorem filter_unread :
    let grown := store.append (description.row store.slots.size types operators)
    let ids := List.range' store.slots.size description.names.length
    (ids.filter fun id => !grown.isParameter id && ids.all fun reader =>
        !(grown.producers reader).contains id) =
      description.unreadNames.map (numberOf description.names store.slots.size) := by
  intro grown ids
  -- A node is read just when its name is, since names and numbers correspond.
  have reads (name : Word) (member : name ∈ description.names) :
      (ids.all fun reader => !(grown.producers reader).contains
        (numberOf description.names store.slots.size name)) = !description.readNames.contains name := by
    have read : numberOf description.names store.slots.size name ∈ ids.flatMap grown.producers ↔
        name ∈ description.readNames := by
      rw [valid.flatMap_producers store, List.mem_map]
      constructor
      · rintro ⟨other, among, same⟩
        rwa [(numberOf_inj _ member).mp same.symm]
      · exact fun among => ⟨name, among, rfl⟩
    rw [Bool.eq_iff_iff, List.all_eq_true, Bool.not_eq_true', ← Bool.not_eq_true,
      List.contains_iff_mem, ← read, List.mem_flatMap]
    simp
  let wanted (id : Nat) : Bool :=
    !grown.isParameter id && ids.all fun reader => !(grown.producers reader).contains id
  have inputs : ((description.inputs.map InputDescription.name).map
      (numberOf description.names store.slots.size)).filter wanted = [] := by
    refine List.filter_eq_nil_iff.mpr fun id among => ?_
    obtain ⟨name, member, rfl⟩ := List.mem_map.mp among
    simp only [wanted, grown, valid.isParameter_input store member]
    exact Bool.false_ne_true
  have nodes : ((description.nodes.map NodeDescription.name).map
      (numberOf description.names store.slots.size)).filter wanted =
        description.unreadNames.map (numberOf description.names store.slots.size) := by
    rw [List.filter_map]
    refine congrArg (List.map _) (List.filter_congr fun name member => ?_)
    rw [Function.comp_apply]
    simp only [wanted, grown, valid.isParameter_node store member]
    exact reads name (List.mem_append_right _ member)
  have numbers : ids = (description.inputs.map InputDescription.name).map
      (numberOf description.names store.slots.size) ++
        (description.nodes.map NodeDescription.name).map
          (numberOf description.names store.slots.size) := by
    rw [← List.map_append]
    exact (map_numberOf _ valid.distinct).symm
  calc ids.filter wanted
      = _ := congrArg (List.filter wanted) numbers
    _ = _ := by rw [List.filter_append, inputs, nodes, List.nil_append]

end Stored

/-! ### The graph that is loaded -/

theorem build_of_valid (store : Store) :
    description.build registry store =
      (store.append (description.row store.slots.size types operators),
        assemble (store.append (description.row store.slots.size types operators))
          (numbered store.slots.size description.names) description) := by
  have inputs := declareInputs_eq store [] valid.types [] rfl (List.nodup_append.mp valid.distinct).1
  have nodes := declareNodes_eq registry store _ valid.operators
    (List.zipWith inputNode description.inputs types) (by simp [← valid.types.length_eq])
    valid.distinct (by simpa [names] using valid.declared)
  have first : declareInputs store [] description.inputs =
      (store.append (List.zipWith inputNode description.inputs types),
        .ok (numbered store.slots.size (description.inputs.map InputDescription.name))) := by
    rwa [Store.append_nil] at inputs
  rw [build, first]
  dsimp only
  rw [nodes]
  rfl

theorem outputNames_of_valid :
    description.outputNames =
      .ok (description.unreadNames.map fun name => Text.strip name.written) := by
  have texts : ∀ name ∈ description.unreadNames, textOf name = .ok name.written := by
    intro name member
    have declared : name ∈ description.names :=
      List.mem_append_right _ (List.mem_of_mem_filter member)
    obtain ⟨text, rfl⟩ := valid.texts name declared
    rfl
  rw [outputNames, valid.outputs]
  dsimp only
  rw [Outcome.mapM_eq_ok_map _ _ _ texts, Outcome.ok_bind, List.map_map]
  rfl

/-- The outputs are looked up under the trimmed names of what is not read. -/
theorem outputsOf_of_valid (base : Nat) :
    let trimmed := description.unreadNames.map fun name => Text.strip name.written
    let missing := trimmed.filter fun name => !description.names.contains (.text name)
    outputsOf (numbered base description.names) description =
      if missing = [] then
        .ok (trimmed.map fun name => numberOf description.names base (.text name))
      else .error (.description (.undefinedOutputs missing)) := by
  intro trimmed missing
  have refused : trimmed.filter (fun name => !isDeclared (numbered base description.names) name) =
      missing :=
    List.filter_congr fun name _ => by rw [isDeclared_numbered base valid.distinct]
  rw [outputsOf, valid.outputNames_of_valid, Outcome.ok_bind, refused]
  cases found : missing with
  | nil =>
    have known : ∀ name ∈ trimmed, Word.text name ∈ description.names := by
      simpa only [missing, List.filter_eq_nil_iff, Bool.not_eq_true', Bool.not_eq_false,
        List.contains_iff_mem] using found
    rw [if_pos rfl, ← filterMap_findDeclared? base valid.distinct known]
    rfl
  | cons first others =>
    rw [if_neg (List.cons_ne_nil _ _)]
    rfl

theorem take_inputs (base : Nat) :
    (List.range' base description.names.length).take description.inputs.length =
      List.range' base (List.zipWith inputNode description.inputs types).length := by
  have split : List.range' base description.names.length =
      List.range' base description.inputs.length ++
        List.range' (base + description.inputs.length) description.nodes.length := by
    simp [names, List.range'_append_1]
  rw [split, List.take_left' List.length_range']
  simp [← valid.types.length_eq]

theorem assemble_of_valid (store : Store) :
    let base := store.slots.size
    let grown := store.append (description.row base types operators)
    let ids := List.range' base description.names.length
    let trimmed := description.unreadNames.map fun name => Text.strip name.written
    let missing := trimmed.filter fun name => !description.names.contains (.text name)
    assemble grown (numbered base description.names) description =
      if missing = [] then
        .ok ⟨description.name.map Word.written, ids.take description.inputs.length,
          trimmed.map fun name => numberOf description.names base (.text name), ids⟩
      else .error (.description (.undefinedOutputs missing)) := by
  intro base grown ids trimmed missing
  have shown : (numbered base description.names).reverse.map Prod.snd = ids := by
    simp [numbered, ids]
  have listing := valid.isListing base
  have fresh : Graph.firstRepeated? ((Graph.empty (description.name.map Word.written)).nodes.map
      grown.name) (ids.map grown.name) = none := by
    have named := listing.firstRepeated?_names
    rwa [← row, valid.length_row] at named
  have added : (Graph.empty (description.name.map Word.written)).addNodes grown ids =
      .ok ⟨description.name.map Word.written, [], [], ids⟩ := by
    rw [Graph.addNodes, fresh]
    rfl
  have parameters : (ids.take description.inputs.length).all grown.isParameter = true := by
    rw [valid.take_inputs]
    exact List.all_eq_true.mpr fun id => listing.isParameter_of_mem
  rw [assemble, valid.outputsOf_of_valid]
  split
  · rw [Outcome.ok_bind]
    dsimp only
    rw [shown, added, Outcome.ok_bind, Graph.setInputs, if_pos parameters]
    rfl
  · rfl

/-- Trimming finds every output again just when it changes no name. -/
theorem outputs_found_iff (base : Nat) :
    let trimmed := description.unreadNames.map fun name => Text.strip name.written
    (trimmed.filter fun name => !description.names.contains (.text name)) = [] ∧
        (trimmed.map fun name => numberOf description.names base (.text name)) =
          description.unreadNames.map (numberOf description.names base) ↔
      ∀ name ∈ description.unreadNames, Text.strip name.written = name.written := by
  intro trimmed
  have declared : ∀ name ∈ description.unreadNames, name ∈ description.names := fun name member =>
    List.mem_append_right _ (List.mem_of_mem_filter member)
  have written : ∀ name ∈ description.unreadNames, Word.text name.written = name := by
    intro name member
    obtain ⟨text, rfl⟩ := valid.texts name (declared name member)
    rfl
  constructor
  · rintro ⟨-, same⟩ name member
    rw [List.map_map] at same
    have found := (List.map_inj_left.mp same name member).symm
    rw [Function.comp_apply, numberOf_inj base (declared name member)] at found
    exact congrArg Word.written found.symm
  · intro kept
    have same : trimmed = description.unreadNames.map Word.written := List.map_congr_left kept
    rw [same, List.map_map]
    refine ⟨List.filter_eq_nil_iff.mpr fun name member => ?_, List.map_congr_left fun name member => ?_⟩
    · obtain ⟨word, among, rfl⟩ := List.mem_map.mp member
      simp [written word among, declared word among]
    · rw [Function.comp_apply, written name member]

theorem load_eq {text : String} (read : ofText text = .ok description) (store : Store) :
    let base := store.slots.size
    let ids := List.range' base description.names.length
    let trimmed := description.unreadNames.map fun name => Text.strip name.written
    let missing := trimmed.filter fun name => !description.names.contains (.text name)
    load registry store text = (store.append (description.row base types operators),
      if missing = [] then
        .ok ⟨description.name.map Word.written, ids.take description.inputs.length,
          trimmed.map fun name => numberOf description.names base (.text name), ids⟩
      else .error (.description (.undefinedOutputs missing))) := by
  intro base ids trimmed missing
  have assembled := valid.assemble_of_valid store
  rw [load, read]
  dsimp only
  rw [valid.build_of_valid, assembled]

end IsValid

end Description

namespace Workspace

variable [DescriptionReader] [Host]

theorem perform_load_of_ok {ws : Workspace} {text : String} {store : Store} {graph : Graph}
    (loaded : Description.load ws.registry ws.store text = (store, .ok graph)) :
    ws.perform (.load text) =
      ({ ws with store := store, graphs := ws.graphs.push graph }, .ok ()) := by
  simp only [perform, load, loaded]
  rfl

theorem perform_load_of_error {ws : Workspace} {text : String} {store : Store} {failure : Failure}
    (refused : Description.load ws.registry ws.store text = (store, .error failure)) :
    ws.perform (.load text) = ({ ws with store := store }, .error failure) := by
  simp only [perform, load, refused]
  rfl

end Workspace

namespace Description

/-- A description without outputs loads as it is built by hand in one block, its parameters and
then its operations in their order: the same nodes, the same inputs, and as outputs the operations
that none of them reads. Only the names of these operations are trimmed before they are looked up:
the graphs are the same just when that leaves all of them as they are. Otherwise loading reports
the names that it does not find, or has other outputs. -/
theorem load_of_valid [DescriptionReader] [Host] (ws : Workspace) {text : String}
    {description : Description} {types : List TensorType} {operators : List Operator}
    (read : ofText text = .ok description)
    (valid : description.IsValid ws.registry types operators) :
    let base := ws.store.slots.size
    let row := description.row base types operators
    let ids := List.range' base row.length
    let label := description.name.map Word.written
    let built := ws.run
      (.enter label false :: (row.map Node.declaration ++ [.exit ws.builders.size false]))
    let loaded := ws.perform (.load text)
    let unread := ids.filter fun id =>
      !built.store.isParameter id && ids.all fun reader => !(built.store.producers reader).contains id
    let graph : Graph := ⟨label, ids.take description.inputs.length, unread, ids⟩
    let trimmed := unread.map fun id => Text.strip (built.store.name id)
    let missing := trimmed.filter fun name => !description.names.contains (.text name)
    ids.map built.store.node = row ∧ built.graphs = ws.graphs.push graph ∧
      loaded.1.store = built.store ∧
      (missing = [] → loaded.2 = .ok () ∧ loaded.1.graphs = ws.graphs.push { graph with
        outputs := trimmed.map fun name => numberOf description.names base (.text name) }) ∧
      (missing ≠ [] → loaded.2 = .error (.description (.undefinedOutputs missing)) ∧
        loaded.1.graphs = ws.graphs) ∧
      (loaded.2 = .ok () ∧ loaded.1.graphs = built.graphs ↔
        ∀ id ∈ unread, Text.strip (built.store.name id) = built.store.name id) := by
  intro base row ids label built loaded unread graph trimmed missing
  obtain ⟨stored, pushed⟩ := Workspace.run_block ws label (valid.isListing base)
  have counted : row.length = description.names.length := valid.length_row base
  have grown : built.store = ws.store.append row := stored
  have handed : built.graphs = ws.graphs.push graph := by
    refine pushed.trans (congrArg ws.graphs.push ?_)
    simp only [graph, unread, ids, counted, valid.take_inputs, grown]
    rw [← counted]
    rfl
  have nodes : ids.map built.store.node = row := by
    rw [grown]
    refine (Node.map_range' row _ id fun position node found => ?_).trans (List.map_id _)
    exact Node.node_append found
  -- What is not read goes by name in the description and by number in the block.
  have unread_eq : unread = description.unreadNames.map (numberOf description.names base) := by
    simp only [unread, ids, grown, counted]
    exact valid.filter_unread ws.store
  have name_eq : ∀ name ∈ description.unreadNames,
      built.store.name (numberOf description.names base name) = name.written := by
    intro name member
    rw [grown]
    exact valid.name_numberOf ws.store (List.mem_append_right _ (List.mem_of_mem_filter member))
  have trimmed_eq : trimmed = description.unreadNames.map fun name => Text.strip name.written := by
    simp only [trimmed, unread_eq, List.map_map]
    exact List.map_congr_left fun name member => congrArg Text.strip (name_eq name member)
  have kept : (missing = [] ∧
        (trimmed.map fun name => numberOf description.names base (.text name)) = unread) ↔
      ∀ id ∈ unread, Text.strip (built.store.name id) = built.store.name id := by
    simp only [missing, trimmed_eq, unread_eq, List.forall_mem_map]
    refine (valid.outputs_found_iff base).trans (forall₂_congr fun name member => ?_)
    rw [name_eq name member]
  have outcome := valid.load_eq read ws.store
  simp only [← trimmed_eq, ← counted] at outcome
  by_cases found : missing = []
  · rw [if_pos found] at outcome
    have loads : loaded = _ := Workspace.perform_load_of_ok outcome
    rw [loads]
    refine ⟨nodes, handed, grown.symm, fun _ => ⟨rfl, rfl⟩, fun absent => absurd found absent, ?_⟩
    rw [← kept, handed, Array.push_inj_right]
    exact ⟨fun same => ⟨found, congrArg Graph.outputs same.2⟩,
      fun same => ⟨rfl, congrArg (fun outputs => { graph with outputs := outputs }) same.2⟩⟩
  · rw [if_neg found] at outcome
    have refuses : loaded = _ := Workspace.perform_load_of_error outcome
    rw [refuses]
    refine ⟨nodes, handed, grown.symm, fun none => absurd none found, fun _ => ⟨rfl, rfl⟩, ?_⟩
    rw [← kept]
    exact ⟨fun same => absurd same.1 nofun, fun same => absurd same.1 found⟩

/-- The operation that is not read has the name of another one with a blank behind it. -/
def blankBehind : String :=
  "inputs:\n- name: x\n  shape: 2, 2\nnodes:\n- name: y\n  op: Dot\n  inputs: x, x\n" ++
    "- name: 'y '\n  op: Dot\n  inputs: y, y\n"

theorem load_of_valid_blankBehind :
    let _reader : DescriptionReader := .plain
    let _host : Host := .wide
    let x : InputDescription := ⟨.text "x", .text "2, 2", .text "float32"⟩
    let product (name read : String) : NodeDescription := ⟨.text name, .text "Dot", [read, read], []⟩
    let description : Description := ⟨none, [x], [product "y" "x", product "y " "y"], none⟩
    let type : TensorType := ⟨.ofLengths [2, 2], .float32⟩
    let loaded := Workspace.initial.perform (.load blankBehind)
    let built := Workspace.initial.run (.enter none false ::
      ((description.row 0 [type] [.dot, .dot]).map Node.declaration ++ [.exit 0 false]))
    ofText blankBehind = .ok description ∧ description.IsValid .library [type] [.dot, .dot] ∧
      loaded.1.store = built.store ∧ built.graphs = #[⟨none, [0], [2], [0, 1, 2]⟩] ∧
      loaded.1.graphs = #[⟨none, [0], [1], [0, 1, 2]⟩] := by
  intro _reader _host x product description type loaded built
  have read : ofText blankBehind = .ok description :=
    Outcome.toOption_eq_some.mp (by decide +kernel)
  have operator (name read : String) : ∃ definition,
      definitionOf .library (product name read) = .ok definition ∧
        operatorOf definition (product name read) = .ok .dot :=
    ⟨⟨Dot.kind, .dot, [(.direct, .dotDirect), (.indexed, .dotIndexed)]⟩, rfl, rfl⟩
  have valid : description.IsValid .library [type] [.dot, .dot] :=
    { outputs := rfl
      texts := by simp [description, names, x, product]
      distinct := by simp [description, names, x, product]
      types := .cons (Outcome.toOption_eq_some.mp (by decide +kernel)) .nil
      operators := .cons (operator "y" "x") (.cons (operator "y " "y") .nil)
      declared := by
        intro position node found
        match position with
        | 0 =>
          cases found
          decide +kernel
        | 1 =>
          cases found
          decide +kernel
        | _ + 2 => cases found }
  have loads : loaded = Workspace.initial.perform (.load blankBehind) := rfl
  have builds : built = Workspace.initial.run (.enter (description.name.map Word.written) false ::
      ((description.row Workspace.initial.store.slots.size [type] [.dot, .dot]).map Node.declaration ++
        [.exit Workspace.initial.builders.size false])) := rfl
  obtain ⟨-, handed, stored, succeeds, -, -⟩ := load_of_valid .initial read valid
  rw [← builds] at handed stored succeeds
  rw [← loads] at stored succeeds
  refine ⟨read, valid, stored, handed.trans ?_, (succeeds ?_).2.trans ?_⟩
  · decide +kernel
  · decide +kernel
  · decide +kernel

end Description

end OpGraph
