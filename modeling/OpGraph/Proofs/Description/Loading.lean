import OpGraph.Proofs.Description.Attributes
import OpGraph.Proofs.Graph.WellFormed

/-!
# Graphs of descriptions

A graph that was loaded is self-contained, whatever the store held before and whichever operators
are registered (`selfContained_of_load`). With the operators of the library it is well formed
(`wellFormed_of_load`).

Proof strategy: a description is declared node by node, first its parameters and then its
operations. One declaration adds a node that reads only nodes declared before it (`Run`); what
every declared node is known by (`IsDeclared`) is kept by all that follow. What is known of the
operators is left open (`good`), since it depends on the registry.
-/
namespace OpGraph

namespace Graph

theorem firstRepeated?_eq_none (seen names : List String) :
    firstRepeated? seen names = none ↔ names.Nodup ∧ ∀ name ∈ names, name ∉ seen := by
  induction names generalizing seen with
  | nil => simp [firstRepeated?]
  | cons name names ih =>
    rw [firstRepeated?]
    by_cases repeated : name ∈ seen
    · simp [repeated]
    · simp only [List.contains_eq_mem, repeated, decide_false, Bool.false_eq_true, if_false, ih,
        List.mem_cons, List.nodup_cons, forall_eq_or_imp]
      constructor
      · rintro ⟨distinct, fresh⟩
        exact ⟨⟨fun member => (fresh name member) (.inl rfl), distinct⟩, not_false,
          fun other member => fun among => fresh other member (.inr among)⟩
      · rintro ⟨⟨new, distinct⟩, -, fresh⟩
        refine ⟨distinct, fun other member => ?_⟩
        rintro (rfl | among)
        · exact new member
        · exact fresh other member among

/-- A name that repeats one before it stands there twice. -/
theorem firstRepeated?_eq_some {seen names : List String} {name : String}
    (repeated : firstRepeated? seen names = some name) :
    ∃ before after, names = before ++ name :: after ∧ firstRepeated? seen before = none ∧
      (name ∈ before ∨ name ∈ seen) := by
  induction names generalizing seen with
  | nil => cases repeated
  | cons first names ih =>
    rw [firstRepeated?] at repeated
    split at repeated
    next again =>
      cases repeated
      exact ⟨[], names, rfl, rfl, .inr (List.contains_iff_mem.mp again)⟩
    next new =>
      obtain ⟨before, after, rfl, fresh, earlier⟩ := ih repeated
      have none : firstRepeated? seen (first :: before) = none := by
        rw [firstRepeated?, if_neg new, fresh]
      refine ⟨first :: before, after, rfl, none, ?_⟩
      rcases earlier with earlier | earlier
      · exact .inl (List.mem_cons_of_mem _ earlier)
      · rcases List.mem_cons.mp earlier with rfl | earlier
        · exact .inl List.mem_cons_self
        · exact .inr earlier

theorem addNodes_empty {store : Store} {name : Option String} {nodes : List Nat} {graph : Graph}
    (added : (Graph.empty name).addNodes store nodes = .ok graph) :
    (nodes.map store.name).Nodup ∧ graph = { Graph.empty name with nodes := nodes } := by
  unfold addNodes at added
  split at added
  · cases added
  next fresh =>
    cases added
    exact ⟨((firstRepeated?_eq_none _ _).mp fresh).1, rfl⟩

end Graph

namespace Description

open Store (initialTypes)

/-- The names of the nodes of a description, in the order of their declaration. -/
def names (description : Description) : List Markup.Word :=
  description.inputs.map InputDescription.name ++ description.nodes.map NodeDescription.name

def ids (declared : Declared) : List Nat :=
  declared.map Prod.snd

/-- What is known of a declared node. -/
structure IsDeclared (good : Operator → Prop) (declared : Declared) (id : Nat) (node : Node) :
    Prop where
  reads : ∀ p ∈ node.producers, p ∈ ids declared ∧ p < id
  operator : good node.operator
  fresh : node.types = initialTypes node.operator

def Declares (good : Operator → Prop) (store : Store) (declared : Declared) : Prop :=
  ∀ id ∈ ids declared, ∃ node, store.find? id = some node ∧ IsDeclared good declared id node

/-- Nodes are declared one after the other, either parameters or operations. -/
inductive Run (good : Operator → Prop) (parameters : Bool) :
    Store → Declared → Store → Declared → Prop
  | done (store : Store) (declared : Declared) : Run good parameters store declared store declared
  | next {store grown final : Store} {declared declared' : Declared} {operator : Operator}
    {producers : List Nat} {name : Option String} {id : Nat} (word : Markup.Word)
    (created : store.create operator producers name = (grown, .ok id))
    (reads : ∀ p ∈ producers, p ∈ ids declared) (kind : operator.isParameter = parameters)
    (known : good operator)
    (rest : Run good parameters grown ((word, id) :: declared) final declared') :
    Run good parameters store declared final declared'

namespace Run

variable {good : Operator → Prop} {parameters : Bool} {store final : Store}
  {declared declared' : Declared}

theorem growth (run : Run good parameters store declared final declared') :
    store.Extends final := by
  induction run with
  | done store declared => exact .refl store
  | next word created _ _ _ _ ih => exact (Store.create_eq_ok created).2.2.trans ih

theorem declares (run : Run good parameters store declared final declared')
    (before : Declares good store declared) : Declares good final declared' := by
  induction run with
  | done store declared => exact before
  | @next store grown final declared declared' operator producers name id word created reads kind
      known _ ih =>
    obtain ⟨found, fresh, grows⟩ := Store.create_eq_ok created
    apply ih
    intro other member
    rcases List.mem_cons.mp member with rfl | earlier
    · refine ⟨_, found, fun p read => ?_, known, rfl⟩
      obtain ⟨node, held, -⟩ := before p (reads p read)
      exact ⟨List.mem_cons_of_mem _ (reads p read), fresh ▸ Store.lt_size_of_find? held⟩
    · obtain ⟨node, held, isDeclared⟩ := before other earlier
      refine ⟨node, grows other node held, fun p read => ?_, isDeclared.operator, isDeclared.fresh⟩
      exact ⟨List.mem_cons_of_mem _ (isDeclared.reads p read).1, (isDeclared.reads p read).2⟩

/-- The new declarations stand before those that were there. -/
theorem split (run : Run good parameters store declared final declared') :
    ∃ later, declared' = later ++ declared ∧
      ∀ id ∈ ids later, final.isParameter id = parameters := by
  induction run with
  | done store declared => exact ⟨[], rfl, by simp [ids]⟩
  | @next store grown final declared declared' operator producers name id word created _ kind _
      rest ih =>
    obtain ⟨later, rfl, same⟩ := ih
    refine ⟨later ++ [(word, id)], by simp, fun other member => ?_⟩
    have split : other ∈ ids later ∨ other = id := by simpa [ids] using member
    rcases split with among | rfl
    · exact same other among
    · have found := rest.growth other _ (Store.create_eq_ok created).1
      rw [Store.isParameter, Store.operator, Store.node_of_find? _ _ _ found]
      exact kind

end Run

theorem run_declareInputs {good : Operator → Prop}
    (typed : ∀ input type, inputType input = .ok type → good (.parameter type))
    (inputs : List InputDescription) {store final : Store} {declared declared' : Declared}
    (succeeded : declareInputs store declared inputs = (final, .ok declared')) :
    Run good true store declared final declared' ∧
      declared'.length = declared.length + inputs.length := by
  induction inputs generalizing store declared with
  | nil =>
    cases succeeded
    exact ⟨.done _ _, rfl⟩
  | cons input inputs ih =>
    rw [declareInputs] at succeeded
    split at succeeded
    · cases succeeded
    next operator made =>
      simp only [inputOperator, Outcome.bind_eq_ok, Outcome.pure_eq_ok] at made
      obtain ⟨-, -, type, declares, rfl⟩ := made
      split at succeeded
      · cases succeeded
      next grown id created =>
        obtain ⟨run, counted⟩ := ih succeeded
        have reads : ∀ p ∈ ([] : List Nat), p ∈ ids declared := by simp
        refine ⟨.next input.name created reads rfl (typed input type declares) run, ?_⟩
        rw [counted, List.length_cons, List.length_cons]
        omega

theorem mem_of_findDeclared? {declared : Declared} {name : String} {id : Nat}
    (found : findDeclared? declared name = some id) : id ∈ ids declared := by
  obtain ⟨before, after, rfl, -⟩ := List.lookup_eq_some_iff.mp found
  simp [ids]

theorem mem_of_producersOf {declared : Declared} {node : NodeDescription} {producers : List Nat}
    (read : producersOf declared node = .ok producers) : ∀ p ∈ producers, p ∈ ids declared := by
  unfold producersOf at read
  dsimp only at read
  split at read
  · cases read
    intro p member
    obtain ⟨name, -, found⟩ := List.mem_filterMap.mp member
    exact mem_of_findDeclared? found
  · cases read

theorem mem_of_outputsOf {declared : Declared} {description : Description} {outputs : List Nat}
    (chosen : outputsOf declared description = .ok outputs) : ∀ id ∈ outputs, id ∈ ids declared := by
  simp only [outputsOf, Outcome.bind_eq_ok] at chosen
  obtain ⟨names, -, chosen⟩ := chosen
  split at chosen
  · cases chosen
    intro id member
    obtain ⟨name, -, found⟩ := List.mem_filterMap.mp member
    exact mem_of_findDeclared? found
  · cases chosen

theorem assemble_eq_ok {store : Store} {declared : Declared} {description : Description}
    {graph : Graph} (assembled : assemble store declared description = .ok graph) :
    ((ids declared).reverse.map store.name).Nodup ∧ graph.nodes = (ids declared).reverse ∧
      graph.inputs = (ids declared).reverse.take description.inputs.length ∧
      ∀ id ∈ graph.outputs, id ∈ ids declared := by
  simp only [assemble, Outcome.bind_eq_ok, Outcome.pure_eq_ok] at assembled
  obtain ⟨outputs, chosen, named, added, bound, set, rfl⟩ := assembled
  obtain ⟨distinct, rfl⟩ := Graph.addNodes_empty added
  rw [Graph.setInputs] at set
  split at set
  · cases set
    have reversed : declared.reverse.map Prod.snd = (ids declared).reverse := List.map_reverse
    rw [reversed] at distinct
    exact ⟨distinct, reversed, congrArg (List.take _) reversed, mem_of_outputsOf chosen⟩
  · cases set

/-- A graph of declared parameters and operations. Declarations stand in reverse, the last of them
first. -/
structure IsAssembled (good : Operator → Prop) (store : Store) (graph : Graph)
    (inputs later : Declared) : Prop where
  declares : Declares good store (later ++ inputs)
  parameters : ∀ id ∈ ids inputs, store.isParameter id = true
  operations : ∀ id ∈ ids later, store.isParameter id = false
  distinct : (graph.nodes.map store.name).Nodup
  members : graph.nodes = (ids (later ++ inputs)).reverse
  bound : graph.inputs = (ids inputs).reverse
  outputs : ∀ id ∈ graph.outputs, id ∈ ids (later ++ inputs)

/-- As many declarations as there are inputs come first. -/
theorem take_declared {inputs later : Declared} {count : Nat} (counted : (ids inputs).length = count) :
    (ids (later ++ inputs)).reverse.take count = (ids inputs).reverse := by
  rw [ids, List.map_append, List.reverse_append]
  exact List.take_left' (List.length_reverse.trans counted)

namespace IsAssembled

variable {good : Operator → Prop} {store : Store} {graph : Graph} {inputs later : Declared}
  (assembled : IsAssembled good store graph inputs later)

include assembled

theorem mem_nodes {id : Nat} : id ∈ graph.nodes ↔ id ∈ ids (later ++ inputs) := by
  rw [assembled.members, List.mem_reverse]

theorem known {id : Nat} (member : id ∈ graph.nodes) :
    (store.find? id).isSome = true ∧ IsDeclared good (later ++ inputs) id (store.node id) := by
  obtain ⟨node, found, isDeclared⟩ := assembled.declares id (assembled.mem_nodes.mp member)
  rw [Store.node_of_find? _ _ _ found, found]
  exact ⟨rfl, isDeclared⟩

theorem mem_inputs {id : Nat} :
    id ∈ graph.inputs ↔ id ∈ graph.nodes ∧ store.isParameter id = true := by
  have split : id ∈ ids (later ++ inputs) ↔ id ∈ ids later ∨ id ∈ ids inputs := by
    rw [ids, List.map_append, List.mem_append]
    rfl
  rw [assembled.bound, List.mem_reverse, assembled.mem_nodes, split]
  constructor
  · exact fun input => ⟨.inr input, assembled.parameters id input⟩
  · rintro ⟨operation | input, parameter⟩
    · rw [assembled.operations id operation] at parameter
      cases parameter
    · exact input

theorem selfContained : graph.IsSelfContained store where
  found id member := (assembled.known member).1
  distinct := assembled.distinct
  closed id member p read := assembled.mem_nodes.mpr ((assembled.known member).2.reads p read).1
  descending id member p read := ((assembled.known member).2.reads p read).2
  inputs id := assembled.mem_inputs
  once := by
    -- Distinct names make all nodes distinct, the inputs among them.
    have nodup := List.Nodup.of_map _ assembled.distinct
    rw [assembled.members, ids, List.map_append, List.reverse_append] at nodup
    rw [assembled.bound]
    exact nodup.of_append_left
  outputs id output := assembled.mem_nodes.mpr (assembled.outputs id output)

end IsAssembled

variable [DescriptionReader]

/-- The operators that are declared have a property, and those of nodes are operations. -/
structure Gives (registry : Registry) (good : Operator → Prop) : Prop where
  parameter : ∀ input type, inputType input = .ok type → good (.parameter type)
  operation : ∀ definition node operator, definitionOf registry node = .ok definition →
    operatorOf definition node = .ok operator → operator.isParameter = false ∧ good operator

theorem isParameter_of_operatorOf {definition : OperatorDefinition} {node : NodeDescription}
    {operator : Operator} (made : operatorOf definition node = .ok operator) :
    operator.isParameter = false := by
  simp only [operatorOf, Outcome.bind_eq_ok] at made
  obtain ⟨attrs, -, made⟩ := made
  split at made
  next built =>
    cases made
    exact isParameter_of_build built
  · cases made

theorem gives_operations (registry : Registry) : Gives registry fun _ => True where
  parameter _ _ _ := trivial
  operation _ _ _ _ made := ⟨isParameter_of_operatorOf made, trivial⟩

theorem gives_described : Gives .library Operator.IsDescribed where
  parameter _ _ typed := isDescribed_of_inputType typed
  operation _ _ _ known made :=
    ⟨isParameter_of_operatorOf made, isDescribed_of_operatorOf (cls_of_definitionOf known) made⟩

theorem run_declareNodes {registry : Registry} {good : Operator → Prop}
    (gives : Gives registry good) (nodes : List NodeDescription) {store final : Store}
    {declared declared' : Declared}
    (succeeded : declareNodes registry store declared nodes = (final, .ok declared')) :
    Run good false store declared final declared' := by
  induction nodes generalizing store declared with
  | nil =>
    cases succeeded
    exact .done _ _
  | cons node nodes ih =>
    rw [declareNodes] at succeeded
    split at succeeded
    · cases succeeded
    next operator producers made =>
      simp only [nodeParts, Outcome.bind_eq_ok, Outcome.exists_unit, Outcome.pure_eq_ok,
        Prod.mk.injEq] at made
      obtain ⟨-, definition, known, read, reads, _, built, rfl, rfl⟩ := made
      obtain ⟨operation, holds⟩ := gives.operation definition node _ known built
      split at succeeded
      · cases succeeded
      next grown id created =>
        exact .next node.name created (mem_of_producersOf reads) operation holds (ih succeeded)

theorem build_eq_ok {registry : Registry} {initial store : Store} {description : Description}
    {graph : Graph} (built : description.build registry initial = (store, .ok graph)) :
    ∃ first inputs declared,
      declareInputs initial [] description.inputs = (first, .ok inputs) ∧
        declareNodes registry first inputs description.nodes = (store, .ok declared) ∧
        assemble store declared description = .ok graph := by
  unfold build at built
  split at built
  · cases built
  next first inputs declaredInputs =>
    split at built
    · cases built
    next second declared declaredNodes =>
      obtain ⟨rfl, assembled⟩ := Prod.mk.inj built
      exact ⟨first, inputs, declared, declaredInputs, declaredNodes, assembled⟩

theorem load_eq_ok {registry : Registry} {initial store : Store} {text : String} {graph : Graph}
    (loaded : load registry initial text = (store, .ok graph)) :
    ∃ description, ofText text = .ok description ∧
      description.build registry initial = (store, .ok graph) := by
  unfold load at loaded
  split at loaded
  · cases loaded
  next description read => exact ⟨description, read, loaded⟩

/-- What stands in the store after all declarations: the parameters and then the operations. -/
theorem declares_of_declared {registry : Registry} {good : Operator → Prop}
    (gives : Gives registry good) {initial first store : Store} {description : Description}
    {inputs declared : Declared}
    (declaredInputs : declareInputs initial [] description.inputs = (first, .ok inputs))
    (declaredNodes : declareNodes registry first inputs description.nodes = (store, .ok declared)) :
    ∃ later, declared = later ++ inputs ∧ Declares good store (later ++ inputs) ∧
      (∀ id ∈ ids inputs, store.isParameter id = true) ∧
      (∀ id ∈ ids later, store.isParameter id = false) ∧
      (ids inputs).length = description.inputs.length := by
  obtain ⟨run, counted⟩ := run_declareInputs gives.parameter description.inputs declaredInputs
  have run' := run_declareNodes gives description.nodes declaredNodes
  have declares := run.declares (by simp [Declares, ids])
  obtain ⟨later, rfl, operations⟩ := run'.split
  obtain ⟨parameters, same, areParameters⟩ := run.split
  obtain rfl : inputs = parameters := by simpa using same
  refine ⟨later, rfl, run'.declares declares, fun id member => ?_, operations, ?_⟩
  · -- Parameters stay parameters while operations are declared.
    obtain ⟨node, found, -⟩ := declares id member
    have parameter := areParameters id member
    rw [Store.isParameter, Store.operator, Store.node_of_find? _ _ _ found] at parameter
    rw [Store.isParameter, Store.operator, Store.node_of_find? _ _ _ (run'.growth id node found)]
    exact parameter
  · rw [ids, List.length_map, counted]
    exact Nat.zero_add _

theorem isAssembled_of_load {registry : Registry} {good : Operator → Prop}
    (gives : Gives registry good) {initial store : Store} {text : String} {graph : Graph}
    (loaded : load registry initial text = (store, .ok graph)) :
    ∃ inputs later, IsAssembled good store graph inputs later := by
  obtain ⟨description, -, built⟩ := load_eq_ok loaded
  obtain ⟨first, inputs, declared, declaredInputs, declaredNodes, assembled⟩ := build_eq_ok built
  obtain ⟨later, rfl, declares, parameters, operations, counted⟩ :=
    declares_of_declared gives declaredInputs declaredNodes
  obtain ⟨distinct, members, bound, outputs⟩ := assemble_eq_ok assembled
  exact ⟨inputs, later, declares, parameters, operations, by rwa [members], members,
    bound.trans (take_declared counted), outputs⟩

theorem selfContained_of_load {registry : Registry} {initial store : Store} {text : String}
    {graph : Graph} (loaded : load registry initial text = (store, .ok graph)) :
    graph.IsSelfContained store := by
  obtain ⟨inputs, later, assembled⟩ := isAssembled_of_load (gives_operations registry) loaded
  exact assembled.selfContained

/-- A graph that was loaded is well formed. -/
theorem wellFormed_of_load {initial store : Store} {text : String} {graph : Graph}
    (loaded : load .library initial text = (store, .ok graph)) : graph.WellFormed store := by
  obtain ⟨inputs, later, assembled⟩ := isAssembled_of_load gives_described loaded
  exact ⟨assembled.selfContained, fun id member => (assembled.known member).2.operator.integral,
    fun id member => (assembled.known member).2.fresh,
    fun id member => (assembled.known member).2.operator.short⟩

end Description

end OpGraph
