import OpGraph.Builder.Session
import OpGraph.Proofs.Description.Loading
import OpGraph.Proofs.Graph.Derivation
import OpGraph.Proofs.Operator.Written

/-!
# Types over a session

Whatever is done to a workspace, in whatever order and with whatever failures, its store evolves
by constructions and resolutions alone, and its scopes hold nodes of the store (`becomes_perform`,
`becomes_run`). So types are set once, as the operators infer them, and depend on nothing but the
structure of the nodes (`types_of_run`).
-/
namespace OpGraph

open Store (Evolves Step SameStructure)

/-! ### Nodes that are resolved without a report -/

namespace Store

/-- What an unresolved node is resolved to cannot be written, so that its report fails when its
types are set already. Only generic operators infer such types. -/
structure IsUnreported (store : Store) (id : Nat) (types : List TensorType) : Prop
    extends store.Resolves id types where
  generic : (store.operator id).isGeneric = true
  long : types.all TensorType.isShort = false

variable {store : Store} {id : Nat} {types : List TensorType}

theorem Resolves.isUnreported (resolves : store.Resolves id types)
    (long : types.all TensorType.isShort = false) : store.IsUnreported id types := by
  refine ⟨resolves, ?_, long⟩
  by_contra known
  obtain ⟨inputs, -, accepted⟩ := computeTypes_eq_ok.mp resolves.computed
  have short := Operator.areShort_of_infer (by simpa using known) resolves.operation accepted
  cases short.symm.trans long

theorem IsUnreported.infer (unreported : store.IsUnreported id types) :
    store.infer id = (store.setTypes id types, .error .numberTooLong) := by
  rw [unreported.toResolves.infer, report_eq, unreported.long]
  rfl

theorem infer_error {failure : Failure} (failed : (store.infer id).2 = .error failure) :
    (store.infer id).1 = store ∨ failure = .numberTooLong ∧
      ∃ types, store.IsUnreported id types ∧ (store.infer id).1 = store.setTypes id types := by
  cases already : store.isResolved id with
  | true =>
    refine .inl ?_
    rw [Store.infer, already]
    split <;> rfl
  | false =>
    obtain ⟨types, resolves, inferred⟩ | ⟨-, _, inferred⟩ := infer_cases already
    · rw [inferred] at failed ⊢
      cases short : types.all TensorType.isShort with
      | true =>
        rw [report_eq, short] at failed
        cases failed
      | false =>
        rw [report_eq, short] at failed
        cases failed
        exact .inr ⟨rfl, types, resolves.isUnreported short, rfl⟩
    · rw [inferred]
      exact .inl rfl

end Store

/-! ### Loading -/

namespace Description

/-- All nodes declared are in the store. -/
def AreKnown (store : Store) (declared : Declared) : Prop :=
  ∀ id ∈ ids declared, (store.find? id).isSome = true

theorem areKnown_nil (store : Store) : AreKnown store [] := by
  intro id member
  cases member

theorem AreKnown.create {store grown : Store} {declared : Declared} (known : AreKnown store declared)
    {operator : Operator} {producers : List Nat} {name : Option String} {id : Nat}
    (created : store.create operator producers name = (grown, .ok id)) (word : Markup.Word) :
    AreKnown grown ((word, id) :: declared) := by
  obtain ⟨found, -, extends_⟩ := Store.create_eq_ok created
  intro other member
  rcases List.mem_cons.mp member with rfl | earlier
  · exact Option.isSome_iff_exists.mpr ⟨_, found⟩
  · exact (extends_.keeps.becomes (known other earlier)).1

theorem evolves_declareInputs (store : Store) (declared : Declared)
    (inputs : List InputDescription) (known : AreKnown store declared) :
    store.Evolves (declareInputs store declared inputs).1 ∧
      ∀ final declared', declareInputs store declared inputs = (final, .ok declared') →
        AreKnown final declared' := by
  induction inputs generalizing store declared with
  | nil =>
    refine ⟨.refl store, fun final declared' done => ?_⟩
    cases done
    exact known
  | cons input inputs ih =>
    rw [declareInputs]
    cases made : inputOperator declared input with
    | error failure => exact ⟨.refl store, fun _ _ done => by cases done⟩
    | ok operator =>
      have grown := store.evolves_create operator [] (some input.name.written) (by simp)
      dsimp only
      cases created : store.create operator [] (some input.name.written) with
      | mk next outcome =>
        rw [created] at grown
        cases outcome with
        | error failure => exact ⟨grown, fun _ _ done => by cases done⟩
        | ok id =>
          obtain ⟨later, known'⟩ := ih next _ (known.create created input.name)
          exact ⟨grown.trans later, known'⟩

theorem evolves_declareNodes [DescriptionReader] (registry : Registry) (store : Store)
    (declared : Declared) (nodes : List NodeDescription) (known : AreKnown store declared) :
    store.Evolves (declareNodes registry store declared nodes).1 := by
  induction nodes generalizing store declared with
  | nil => exact .refl store
  | cons node nodes ih =>
    rw [declareNodes]
    cases made : nodeParts registry declared node with
    | error failure => exact .refl store
    | ok parts =>
      obtain ⟨_, _⟩ := parts
      -- The producers are looked up among the declared nodes, which are known.
      simp only [nodeParts, Outcome.bind_eq_ok, Outcome.exists_unit, Outcome.pure_eq_ok,
        Prod.mk.injEq] at made
      obtain ⟨-, definition, -, producers, reads, operator, -, rfl, rfl⟩ := made
      have grown := store.evolves_create operator producers (some node.name.written)
        fun p member => known p (mem_of_producersOf reads p member)
      dsimp only
      cases created : store.create operator producers (some node.name.written) with
      | mk next outcome =>
        rw [created] at grown
        cases outcome with
        | error failure => exact grown
        | ok id => exact grown.trans (ih next _ (known.create created node.name))

theorem evolves_load [DescriptionReader] (registry : Registry) (store : Store) (text : String) :
    store.Evolves (load registry store text).1 := by
  unfold load
  split
  · exact .refl store
  next description read =>
    unfold build
    obtain ⟨inputs, known⟩ :=
      evolves_declareInputs store [] description.inputs (areKnown_nil store)
    split
    next first failure declared =>
      rw [declared] at inputs
      exact inputs
    next first parameters declared =>
      rw [declared] at inputs
      have nodes := evolves_declareNodes registry first parameters description.nodes
        (known first parameters declared)
      split
      next second failure declared' =>
        rw [declared'] at nodes
        exact inputs.trans nodes
      next second all declared' =>
        rw [declared'] at nodes
        exact inputs.trans nodes

end Description

/-! ### Scopes -/

namespace ScopeStack

variable {scopes : ScopeStack}

/-- The nodes of the open scopes. -/
def members (scopes : ScopeStack) : List Nat :=
  scopes.opened.flatMap Scope.nodes

theorem mem_members {id : Nat} : id ∈ scopes.members ↔ ∃ scope ∈ scopes.opened, id ∈ scope.nodes :=
  List.mem_flatMap

theorem mem_members_addNode {id node : Nat} (member : id ∈ (scopes.addNode node).members) :
    id ∈ scopes.members ∨ id = node := by
  obtain ⟨scope, among, inside⟩ := mem_members.mp member
  obtain ⟨before, opened, rfl⟩ := List.mem_map.mp among
  rcases List.mem_append.mp inside with old | new
  · exact .inl (mem_members.mpr ⟨before, opened, old⟩)
  · exact .inr (List.mem_singleton.mp new)

/-- Inputs and outputs of a scope are no nodes of it. -/
theorem members_modifyInnermost (change : Scope → Scope)
    (keeps : ∀ scope, (change scope).nodes = scope.nodes) :
    (scopes.modifyInnermost change).members = scopes.members := by
  rw [modifyInnermost, members]
  split
  next scope outer opened => rw [members, opened, List.flatMap_cons, List.flatMap_cons, keeps]
  next opened => rw [members, opened]

theorem opened_of_pop {scope : Scope} {rest : ScopeStack}
    (popped : scopes.pop? = some (scope, rest)) : scopes.opened = scope :: rest.opened := by
  rw [pop?] at popped
  split at popped
  next outer opened =>
    cases popped
    exact opened
  · cases popped

end ScopeStack

namespace Workspace

/-! ### What actions do -/

/-- The store evolves, and the open scopes take up nodes of the store only. -/
structure Becomes (before after : Workspace) : Prop where
  evolves : before.store.Evolves after.store
  members : ∀ id ∈ after.scopes.members, id ∈ before.scopes.members ∨ after.hasNode id = true

namespace Becomes

variable {before middle after : Workspace}

theorem of_scopes (evolves : before.store.Evolves after.store)
    (same : after.scopes = before.scopes) : before.Becomes after where
  evolves := evolves
  members id member := by
    rw [same] at member
    exact .inl member

theorem of_store (same : after.store = before.store)
    (fewer : after.scopes.members ⊆ before.scopes.members) : before.Becomes after where
  evolves := by
    rw [same]
    exact .refl before.store
  members id member := .inl (fewer member)

theorem refl (ws : Workspace) : ws.Becomes ws :=
  .of_scopes (.refl ws.store) rfl

theorem trans (first : before.Becomes middle) (second : middle.Becomes after) :
    before.Becomes after where
  evolves := first.evolves.trans second.evolves
  members id member := by
    rcases second.members id member with earlier | found
    · rcases first.members id earlier with first | found
      · exact .inl first
      · -- Nodes stay in the store.
        exact .inr (second.evolves.keeps.becomes found).1
    · exact .inr found

end Becomes

variable (ws : Workspace)

theorem becomes_createUnscoped (operator : Operator) {producers : List Nat}
    (name : Option String) (reads : ∀ p ∈ producers, ws.hasNode p = true) :
    ws.Becomes (ws.createUnscoped operator producers name).1 :=
  .of_scopes (ws.store.evolves_create operator producers name reads) rfl

/-- A node enters the scopes once it exists. -/
theorem becomes_create (operator : Operator) {producers : List Nat} (name : Option String)
    (reads : ∀ p ∈ producers, ws.hasNode p = true) :
    ws.Becomes (ws.create operator producers name).1 := by
  have made := ws.becomes_createUnscoped operator name reads
  unfold create
  split
  next grown id created =>
    rw [created] at made
    -- The scope is told of the new node, which is the only member that is added.
    have stored : ws.store.create operator producers name = (grown.store, .ok id) :=
      congrArg (fun made => (made.1.store, made.2)) created
    have found : grown.hasNode id = true := by
      rw [hasNode, (Store.create_eq_ok stored).1]
      rfl
    refine ⟨made.evolves, fun other member => ?_⟩
    rcases ScopeStack.mem_members_addNode member with earlier | rfl
    · exact made.members other earlier
    · exact .inr found
  next grown failure created =>
    rw [created] at made
    exact made

theorem becomes_inferNode (id : Nat) : ws.Becomes (ws.inferNode id).1 :=
  .of_scopes (ws.store.evolves_inferNode id) rfl

theorem becomes_inferGraph (id : Nat) : ws.Becomes (ws.inferGraph id).1 := by
  have inferred := Store.evolves_inferGraph ws.store (ws.graph id)
  unfold inferGraph
  generalize (ws.graph id).infer ws.store = outcome at inferred ⊢
  exact .of_scopes inferred rfl

/-- A builder holds the graph of its scope. -/
def hold (builder : Nat) (graph : Graph) : Workspace :=
  { ws with
    graphs := ws.graphs.push graph
    builders := ws.builders.modify builder fun entry =>
      { entry with graph := some ws.graphs.size } }

variable {ws} in
theorem finish_of_build {scope : Scope} {graph : Graph} (built : scope.build ws.store = .ok graph)
    (builder : Nat) :
    ws.finish builder scope =
      if ((ws.hold builder graph).builder builder).infers then
        let (inferred, types) := (ws.hold builder graph).inferGraph ws.graphs.size
        (inferred, types.map fun _ => ())
      else (ws.hold builder graph, .ok ()) := by
  rw [finish, built]
  rfl

theorem becomes_finish (builder : Nat) (scope : Scope) :
    ws.Becomes (ws.finish builder scope).1 := by
  cases built : scope.build ws.store with
  | error failure =>
    rw [finish, built]
    exact .refl ws
  | ok graph =>
    have held : ws.Becomes (ws.hold builder graph) := .of_scopes (.refl ws.store) rfl
    rw [finish_of_build built]
    split
    · exact held.trans ((ws.hold builder graph).becomes_inferGraph ws.graphs.size)
    · exact held

variable {ws} in
theorem exit_of_pop {scope : Scope} {scopes : ScopeStack}
    (popped : ws.scopes.pop? = some (scope, scopes)) (builder : Nat) (failed : Bool) :
    ws.exit builder failed =
      if failed then ({ ws with scopes := scopes }, .ok ())
      else finish { ws with scopes := scopes } builder scope := by
  rw [exit, popped]

theorem becomes_exit (builder : Nat) (failed : Bool) : ws.Becomes (ws.exit builder failed).1 := by
  cases popped : ws.scopes.pop? with
  | none =>
    rw [exit, popped]
    exact .refl ws
  | some parts =>
    obtain ⟨scope, scopes⟩ := parts
    -- The scope that is left only takes members away.
    have left : ws.Becomes { ws with scopes := scopes } := by
      refine .of_store rfl fun id member => ?_
      rw [ScopeStack.members, ScopeStack.opened_of_pop popped]
      exact List.mem_append_right _ member
    rw [exit_of_pop popped]
    split
    · exact left
    · exact left.trans (becomes_finish { ws with scopes := scopes } builder scope)

theorem becomes_load [DescriptionReader] (text : String) : ws.Becomes (ws.load text).1 := by
  have loaded := Description.evolves_load ws.registry ws.store text
  unfold load
  split
  next store graph result =>
    rw [result] at loaded
    exact .of_scopes loaded rfl
  next store failure result =>
    rw [result] at loaded
    exact .of_scopes loaded rfl

theorem becomes_changeGraph (id : Nat) (change : Store → Graph → Except Failure Graph) :
    ws.Becomes (ws.changeGraph id change).1 := by
  unfold changeGraph
  split <;> exact .of_scopes (.refl ws.store) rfl

theorem becomes_modifyInnermost (change : Scope → Scope)
    (keeps : ∀ scope, (change scope).nodes = scope.nodes) :
    ws.Becomes { ws with scopes := ws.scopes.modifyInnermost change } := by
  refine .of_store rfl fun id member => ?_
  rwa [ScopeStack.members_modifyInnermost change keeps] at member

variable [DescriptionReader] [Host]

theorem becomes_perform (action : Action) (allowed : ws.allows action = true) :
    ws.Becomes (ws.perform action).1 := by
  -- Actions that leave nodes and scopes alone are no steps of the store.
  have unchanged (after : Workspace) (store : after.store = ws.store)
      (scopes : after.scopes = ws.scopes) : ws.Becomes after := by
    refine .of_store store fun id member => ?_
    rwa [scopes] at member
  cases action with
  | create inScope operator producers name =>
    have reads := List.all_eq_true.mp allowed
    cases inScope with
    | false => exact ws.becomes_createUnscoped operator name reads
    | true => exact ws.becomes_create operator name reads
  | inferNode id => exact ws.becomes_inferNode id
  | inferGraph graph => exact ws.becomes_inferGraph graph
  | exit builder failed => exact ws.becomes_exit builder failed
  | load text => exact ws.becomes_load text
  | addNodes graph ids => exact ws.becomes_changeGraph graph _
  | setInputs graph ids => exact ws.becomes_changeGraph graph _
  | setOutputs graph ids => exact ws.becomes_changeGraph graph _
  | addInputs ids => exact ws.becomes_modifyInnermost (Scope.addInputs ids) fun _ => rfl
  | addOutputs ids => exact ws.becomes_modifyInnermost (Scope.addOutputs ids) fun _ => rfl
  | enter name infers => exact .of_store rfl fun _ member => member
  | newGraph name => exact unchanged _ rfl rfl
  | translateNode id dialect => exact .refl ws
  | evaluateNode id operands => exact .refl ws
  | translateGraph graph dialect => exact .refl ws
  | evaluateGraph graph arrays => exact .refl ws
  | register definition =>
    rw [perform]
    split <;> exact unchanged _ rfl rfl
  | loadLibrary => exact unchanged _ rfl rfl
  | clearRegistry => exact unchanged _ rfl rfl

/-! ### Sessions -/

theorem perform_inferNode (id : Nat) : ws.perform (.inferNode id) =
    ({ ws with store := (ws.store.infer id).1 }, (ws.store.infer id).2.map fun _ => ()) :=
  rfl

theorem becomes_run (actions : List Action) : ws.Becomes (ws.run actions) := by
  induction actions generalizing ws with
  | nil => exact .refl ws
  | cons action actions ih =>
    rw [run]
    split
    next allowed => exact (ws.becomes_perform action allowed).trans (ih _)
    · exact ih ws

theorem evolves_run (actions : List Action) : ws.store.Evolves (ws.run actions).store :=
  (ws.becomes_run actions).evolves

theorem evolves_initial (actions : List Action) :
    Store.empty.Evolves (initial.run actions).store :=
  initial.evolves_run actions

/-- At every point of a session: a parameter has its declared type; another node that has types
has those that its operator infers from the first output types of its producers, which are all
resolved; types stay in whatever follows; and a node that cannot be resolved leaves all nodes as
they were, unless it is generic and only the report of its types fails, which comes after they were
set. The types of a node depend neither on what follows nor on the session it is in, as long as its
structure is the same. -/
theorem types_of_run (actions : List Action) :
    let ws := initial.run actions
    (∀ id type, ws.store.operator id = .parameter type → ws.store.outputTypes id = .ok [type]) ∧
      (∀ id types, ws.store.isParameter id = false → ws.store.outputTypes id = .ok types →
        (∀ p ∈ ws.store.producers id, ws.store.isResolved p = true) ∧
          ∃ inputs, List.Forall₂ (fun p type => ws.store.outputType p = .ok type)
              (ws.store.producers id) inputs ∧
            (ws.store.operator id).infer inputs = .ok types) ∧
      (∀ later id types, ws.store.outputTypes id = .ok types →
        (ws.run later).store.outputTypes id = .ok types) ∧
      (∀ id failure, (ws.perform (.inferNode id)).2 = .error failure →
        (∀ other, (ws.perform (.inferNode id)).1.store.node other = ws.store.node other) ∨
          failure = .numberTooLong ∧ ∃ types, ws.store.IsUnreported id types ∧
            (ws.perform (.inferNode id)).1.store = ws.store.setTypes id types) ∧
      (∀ id types, ws.store.IsUnreported id types → ws.perform (.inferNode id) =
        ({ ws with store := ws.store.setTypes id types }, .error .numberTooLong)) ∧
      (∀ later later' id types types', ws.hasNode id = true →
        (ws.run later).store.outputTypes id = .ok types →
        (ws.run later').store.outputTypes id = .ok types' → types = types') ∧
      ∀ actions' same a b types types',
        SameStructure ws.store (initial.run actions').store same → same a b →
        ws.store.outputTypes a = .ok types →
        (initial.run actions').store.outputTypes b = .ok types' → types = types' := by
  intro ws
  have began := evolves_initial actions
  have consistent := Store.isConsistent_empty.evolves began
  simp only [Store.outputTypes_eq_ok]
  refine ⟨consistent.declared, ?_, ?_, ?_, ?_, ?_, ?_⟩
  · intro id types operation typed
    obtain ⟨inputs, given, accepted⟩ :=
      Store.computeTypes_eq_ok.mp (consistent.computed id operation types typed)
    obtain ⟨resolved, outputs⟩ := Store.inputTypes_eq_ok.mp given
    exact ⟨resolved, inputs, outputs, accepted⟩
  · intro later id types typed
    exact (ws.evolves_run later).keeps.types typed
  · intro id failure failed
    rw [perform_inferNode] at failed ⊢
    have failed : (ws.store.infer id).2 = .error failure := by
      cases inferred : (ws.store.infer id).2 <;> rw [inferred] at failed <;> cases failed
      rfl
    obtain same | unreported := Store.infer_error failed
    · exact .inl fun other => by rw [same]
    · exact .inr unreported
  · intro id types unreported
    rw [perform_inferNode, unreported.infer]
    rfl
  · -- Both futures derive the types from the structure that the node has now.
    intro later later' id types types' found typed typed'
    have matching := (Store.isGrounded_empty.evolves began).sameStructure
      (ws.evolves_run later).keeps (ws.evolves_run later').keeps
    have derived := Store.isDerived_empty.evolves (began.trans (ws.evolves_run later))
    have derived' := Store.isDerived_empty.evolves (began.trans (ws.evolves_run later'))
    exact (derived id types typed).unique matching ⟨rfl, found⟩ (derived' id types' typed')
  · intro actions' same a b types types' matching paired typed typed'
    have derived := Store.isDerived_empty.evolves began
    have derived' := Store.isDerived_empty.evolves (evolves_initial actions')
    exact (derived a types typed).unique matching paired (derived' b types' typed')

omit [DescriptionReader] [Host] in
/-- The types of a slice stay when a generic node fails, which gets its types nevertheless. -/
theorem types_of_run_unreported :
    let _host : Host := .wide
    let _reader : DescriptionReader := .plain
    let huge : TensorType := ⟨.ofLengths [10 ^ 4300], .int32⟩
    let actions : List Action :=
      [.create true (.parameter ⟨.ofLengths [3], .int32⟩) [] (some "x"),
        .create true (.slice (.ofInts [0] [3] [2])) [0] none, .inferNode 1,
        .create true (.parameter huge) [] (some "z"), .create true (.generic "Id" []) [2] none]
    let ws := initial.run actions
    (ws.run [.inferNode 3]).store.outputTypes 1 = .ok [⟨.ofLengths [2], .int32⟩] ∧
      ws.store.isResolved 3 = false ∧
      (ws.perform (.inferNode 3)).2 = .error .numberTooLong ∧
      (ws.perform (.inferNode 3)).1.store.outputTypes 3 = .ok [huge] := by
  intro _host _reader huge actions ws
  have typed : ws.store.outputTypes 1 = .ok [⟨.ofLengths [2], .int32⟩] :=
    Outcome.toOption_eq_some.mp (by decide +kernel)
  have unreported : ws.store.IsUnreported 3 [huge] :=
    ⟨⟨by decide +kernel, by decide +kernel, Outcome.toOption_eq_some.mp (by decide +kernel)⟩,
      by decide +kernel, by decide +kernel⟩
  obtain ⟨-, -, stays, -, unreports, -⟩ := types_of_run actions
  refine ⟨stays _ 1 _ typed, unreported.unresolved, ?_, ?_⟩
  · rw [unreports 3 _ unreported]
  · rw [unreports 3 _ unreported]
    exact Outcome.toOption_eq_some.mp (by decide +kernel)

end Workspace

end OpGraph
