import Mathlib.Logic.Relation
import OpGraph.Proofs.Graph.Resolution

/-!
# The life of a store

A store changes in two ways only, the construction of a node and the resolution of one. Whatever
is done to it, every node stays as it is but for types that were unknown (`Evolves.keeps`), and
the types of a node are those that its operator infers from those of its producers
(`IsConsistent.evolves`). New nodes read nodes that were there (`IsGrounded.evolves`) and have larger
numbers than those (`Evolves.lt_of_new`).
-/
namespace OpGraph

/-- A node before and after: only types that were unknown may have been set. -/
structure Node.Becomes (before after : Node) : Prop where
  name : after.name = before.name
  operator : after.operator = before.operator
  producers : after.producers = before.producers
  types : ∀ types, before.types = some types → after.types = some types

theorem Node.Becomes.refl (node : Node) : node.Becomes node :=
  ⟨rfl, rfl, rfl, fun _ typed => typed⟩

theorem Node.Becomes.trans {first second third : Node} (before : first.Becomes second)
    (after : second.Becomes third) : first.Becomes third := by
  refine ⟨?_, ?_, ?_, fun types typed => after.types types (before.types types typed)⟩
  · rw [after.name, before.name]
  · rw [after.operator, before.operator]
  · rw [after.producers, before.producers]

namespace Store

/-- All nodes are still there. -/
def Keeps (store later : Store) : Prop :=
  ∀ id node, store.find? id = some node →
    ∃ node', later.find? id = some node' ∧ node.Becomes node'

theorem Keeps.refl (store : Store) : store.Keeps store :=
  fun _ node found => ⟨node, found, .refl node⟩

theorem Keeps.trans {first second third : Store} (before : first.Keeps second)
    (after : second.Keeps third) : first.Keeps third := by
  intro id node found
  obtain ⟨node', found', becomes⟩ := before id node found
  obtain ⟨node'', found'', becomes'⟩ := after id node' found'
  exact ⟨node'', found'', becomes.trans becomes'⟩

theorem Extends.keeps {store grown : Store} (extends_ : store.Extends grown) : store.Keeps grown :=
  fun id node found => ⟨node, extends_ id node found, .refl node⟩

section Keeps

variable {store later : Store} (keeps : store.Keeps later) {id : Nat}

/-- Types are known of nodes only. -/
theorem found_of_types {types : List TensorType} (typed : (store.node id).types = some types) :
    (store.find? id).isSome = true := by
  cases found : store.find? id with
  | none =>
    rw [node, found] at typed
    cases typed
  | some node => rfl

include keeps

theorem Keeps.becomes (found : (store.find? id).isSome = true) :
    (later.find? id).isSome = true ∧ (store.node id).Becomes (later.node id) := by
  obtain ⟨node, held⟩ := Option.isSome_iff_exists.mp found
  obtain ⟨node', held', becomes⟩ := keeps id node held
  rw [node_of_find? _ _ _ held, node_of_find? _ _ _ held', held']
  exact ⟨rfl, becomes⟩

theorem Keeps.names {ids : List Nat} (found : ∀ id ∈ ids, (store.find? id).isSome = true) :
    ids.map later.name = ids.map store.name :=
  List.map_congr_left fun id member => (keeps.becomes (found id member)).2.name

theorem Keeps.isParameter (found : (store.find? id).isSome = true) :
    later.isParameter id = store.isParameter id :=
  congrArg Operator.isParameter (keeps.becomes found).2.operator

theorem Keeps.types {types : List TensorType} (typed : (store.node id).types = some types) :
    (later.node id).types = some types :=
  (keeps.becomes (found_of_types typed)).2.types types typed

theorem Keeps.isResolved (resolved : store.isResolved id = true) : later.isResolved id = true := by
  obtain ⟨types, typed⟩ := Option.isSome_iff_exists.mp resolved
  exact Option.isSome_iff_exists.mpr ⟨types, keeps.types typed⟩

theorem Keeps.outputType {type : TensorType} (output : store.outputType id = .ok type) :
    later.outputType id = .ok type := by
  simp only [Store.outputType, Outcome.bind_eq_ok, outputTypes_eq_ok] at output ⊢
  obtain ⟨types, typed, first⟩ := output
  exact ⟨types, keeps.types typed, first⟩

/-- What a node is computed from stays. -/
theorem Keeps.computeTypes (found : (store.find? id).isSome = true) {types : List TensorType}
    (computed : store.computeTypes id = .ok types) : later.computeTypes id = .ok types := by
  have becomes := (keeps.becomes found).2
  obtain ⟨inputs, typed, inferred⟩ := computeTypes_eq_ok.mp computed
  obtain ⟨resolved, outputs⟩ := inputTypes_eq_ok.mp typed
  have producers : later.producers id = store.producers id := becomes.producers
  refine computeTypes_eq_ok.mpr ⟨inputs, inputTypes_eq_ok.mpr ⟨?_, ?_⟩, ?_⟩
  · rw [producers]
    exact fun p read => keeps.isResolved (resolved p read)
  · rw [producers]
    exact outputs.imp fun p type output => keeps.outputType output
  · rw [operator, becomes.operator]
    exact inferred

end Keeps

/-! ### Steps -/

/-- One change of a store. A construction reads nodes that exist, and may be refused. -/
inductive Step : Store → Store → Prop
  | create {store : Store} (operator : Operator) {producers : List Nat} (name : Option String)
      (reads : ∀ p ∈ producers, (store.find? p).isSome = true) :
    Step store (store.create operator producers name).1
  | resolve {store : Store} {id : Nat} {types : List TensorType}
      (resolves : store.Resolves id types) : Step store (store.setTypes id types)

/-- Any number of changes, one after the other. -/
def Evolves : Store → Store → Prop :=
  Relation.ReflTransGen Step

theorem keeps_setTypes {store : Store} {id : Nat} (types : List TensorType)
    (unresolved : store.isResolved id = false) : store.Keeps (store.setTypes id types) := by
  intro other node found
  by_cases same : other = id
  · subst same
    refine ⟨_, store.find?_setTypes_self other types node found, rfl, rfl, rfl, ?_⟩
    intro types' typed
    rw [isResolved, node_of_find? _ _ _ found, typed] at unresolved
    cases unresolved
  · refine ⟨node, ?_, .refl node⟩
    rw [find?_setTypes, if_neg same]
    exact found

theorem Step.keeps {store later : Store} (step : Step store later) : store.Keeps later := by
  cases step with
  | create operator name reads => exact (extends_create _ operator _ name).keeps
  | resolve resolves => exact keeps_setTypes _ resolves.unresolved

/-- New types are those that a node is resolved to. -/
theorem Step.types {store later : Store} (step : Step store later) {id : Nat}
    (found : (store.find? id).isSome = true) {types : List TensorType}
    (typed : (later.node id).types = some types) :
    (store.node id).types = some types ∨ store.Resolves id types := by
  obtain ⟨node, held⟩ := Option.isSome_iff_exists.mp found
  cases step with
  | @create operator producers name reads =>
    have same := store.extends_create operator producers name id node held
    rw [node_of_find? _ _ _ same, ← node_of_find? _ _ _ held] at typed
    exact .inl typed
  | @resolve other computed resolves =>
    by_cases same : id = other
    · subst same
      rw [node_of_find? _ _ _ (store.find?_setTypes_self id computed node held)] at typed
      cases typed
      exact .inr resolves
    · rw [node_setTypes_of_ne store other id computed same] at typed
      exact .inl typed

theorem Step.isComputed {store later : Store} (step : Step store later) {id : Nat}
    (found : (store.find? id).isSome = true) (computed : store.IsComputed id) :
    later.IsComputed id := by
  intro operation types typed
  rw [step.keeps.isParameter found] at operation
  refine step.keeps.computeTypes found ?_
  rcases step.types found typed with known | resolves
  · exact computed operation types known
  · exact resolves.computed

namespace Evolves

variable {store middle later : Store}

theorem refl (store : Store) : store.Evolves store :=
  Relation.ReflTransGen.refl

theorem trans (before : store.Evolves middle) (after : middle.Evolves later) :
    store.Evolves later :=
  Relation.ReflTransGen.trans before after

theorem single (step : Step store later) : store.Evolves later :=
  Relation.ReflTransGen.single step

/-- What every single change keeps, all changes keep. -/
theorem preserves {kept : Store → Prop}
    (step : ∀ store later, Step store later → kept store → kept later)
    (evolves : store.Evolves later) (held : kept store) : kept later := by
  induction evolves with
  | refl => exact held
  | tail _ last ih => exact step _ _ last ih

theorem keeps (evolves : store.Evolves later) : store.Keeps later :=
  preserves (fun _ _ step before => before.trans step.keeps) evolves (.refl store)

end Evolves

/-- A run over nodes is a row of resolutions. -/
theorem evolves_create (store : Store) (operator : Operator) (producers : List Nat)
    (name : Option String) (reads : ∀ p ∈ producers, (store.find? p).isSome = true) :
    store.Evolves (store.create operator producers name).1 :=
  .single (.create operator name reads)

theorem evolves_resolveAll (store : Store) (ids : List Nat) :
    store.Evolves (Graph.resolveAll store ids).1 :=
  Graph.resolveAll_keeps store.Evolves ids
    (fun _ _ _ _ before resolves => before.trans (.single (.resolve resolves))) store (.refl store)

theorem evolves_inferGraph (store : Store) (graph : Graph) :
    store.Evolves (graph.infer store).1 := by
  cases sorted : graph.topological store with
  | error failure =>
    rw [Graph.infer, sorted]
    exact .refl store
  | ok order =>
    rw [Graph.infer_store store graph order sorted]
    exact evolves_resolveAll store order

theorem evolves_inferNode (store : Store) (id : Nat) : store.Evolves (store.infer id).1 := by
  cases already : store.isResolved id with
  | false =>
    obtain ⟨types, resolves, inferred⟩ | ⟨-, failure, inferred⟩ := infer_cases already
    · rw [inferred]
      exact .single (.resolve resolves)
    · rw [inferred]
      exact .refl store
  | true =>
    -- A node that is resolved stays as it is, and only a parameter is answered.
    rw [infer, already]
    split <;> exact .refl store

/-! ### Consistency -/

/-- The types known are those declared or computed. -/
structure IsConsistent (store : Store) : Prop where
  declared : ∀ id type, store.operator id = .parameter type →
    (store.node id).types = some [type]
  computed : ∀ id, store.IsComputed id

theorem node_empty (id : Nat) : empty.node id = default := by
  simp [node, find?, empty]

theorem isConsistent_empty : empty.IsConsistent := by
  refine ⟨fun id type parameter => ?_, fun id _ types typed => ?_⟩
  · rw [operator, node_empty] at parameter
    cases parameter
  · rw [node_empty] at typed
    cases typed

theorem initialTypes_of_operation {operator : Operator} (operation : operator.isParameter = false) :
    initialTypes operator = none := by
  cases operator <;> first | rfl | cases operation

/-- A node after a construction is new or was there. -/
theorem node_create (store : Store) (operator : Operator) (producers : List Nat)
    (name : Option String) (other : Nat) :
    (store.create operator producers name).1.node other =
        ⟨name.getD (defaultName other), operator, producers, initialTypes operator⟩ ∨
      (store.create operator producers name).1.node other = store.node other := by
  rw [node, find?_create, node]
  split
  next new =>
    split
    · right
      have absent : store.find? other = none := by simp [find?, new]
      rw [absent]
    · exact .inl rfl
  · exact .inr rfl

theorem IsConsistent.create {store : Store} (consistent : store.IsConsistent)
    (operator : Operator) (producers : List Nat) (name : Option String) :
    (store.create operator producers name).1.IsConsistent := by
  have keeps := (store.extends_create operator producers name).keeps
  constructor
  · intro id type parameter
    rw [Store.operator] at parameter
    rcases store.node_create operator producers name id with new | old
    · rw [new] at parameter ⊢
      cases parameter
      rfl
    · rw [old] at parameter ⊢
      exact consistent.declared id type parameter
  · intro id operation types typed
    rcases store.node_create operator producers name id with new | old
    · -- A new operation has no types yet.
      rw [isParameter, Store.operator, new] at operation
      rw [new, initialTypes_of_operation operation] at typed
      cases typed
    · rw [isParameter, Store.operator, old] at operation
      rw [old] at typed
      exact keeps.computeTypes (found_of_types typed)
        (consistent.computed id operation types typed)

theorem IsConsistent.resolve {store : Store} (consistent : store.IsConsistent) {id : Nat}
    {types : List TensorType} (resolves : store.Resolves id types) :
    (store.setTypes id types).IsConsistent := by
  refine ⟨fun other type parameter => ?_, fun other => ?_⟩
  · rw [operator_setTypes] at parameter
    have different : other ≠ id := by
      rintro rfl
      have operation := resolves.operation
      rw [isParameter, parameter] at operation
      cases operation
    rw [node_setTypes_of_ne store id other types different]
    exact consistent.declared other type parameter
  · exact (consistent.computed other).setTypes resolves

theorem IsConsistent.evolves {store later : Store} (consistent : store.IsConsistent)
    (evolves : store.Evolves later) : later.IsConsistent := by
  refine evolves.preserves (fun store later step held => ?_) consistent
  cases step with
  | create operator name reads => exact held.create operator _ name
  | resolve resolves => exact held.resolve resolves

/-! ### What nodes read -/

/-- Nodes read nodes that were there before them, and parameters read nothing. -/
structure IsGrounded (store : Store) : Prop where
  reads : ∀ id node, store.find? id = some node → ∀ p ∈ node.producers,
    p < id ∧ (store.find? p).isSome = true
  parameter : ∀ id node, store.find? id = some node → node.operator.isParameter = true →
    node.producers = []

theorem IsGrounded.producers {store : Store} (grounded : store.IsGrounded) (id : Nat) :
    ∀ p ∈ store.producers id, p < id ∧ (store.find? p).isSome = true := by
  intro p read
  cases found : store.find? id with
  | none =>
    -- A number without a node reads nothing.
    rw [Store.producers, node, found] at read
    cases read
  | some node =>
    rw [Store.producers, node_of_find? _ _ _ found] at read
    exact grounded.reads id node found p read

theorem IsGrounded.descending {store : Store} (grounded : store.IsGrounded) (id : Nat) :
    ∀ p ∈ store.producers id, p < id :=
  fun p read => (grounded.producers id p read).1

theorem isGrounded_empty : empty.IsGrounded := by
  have none (id : Nat) : empty.find? id = none := by simp [find?, empty]
  constructor
  · intro id node found
    rw [none] at found
    cases found
  · intro id node found
    rw [none] at found
    cases found

theorem IsGrounded.create {store : Store} (grounded : store.IsGrounded) (operator : Operator)
    {producers : List Nat} (name : Option String)
    (reads : ∀ p ∈ producers, (store.find? p).isSome = true) :
    (store.create operator producers name).1.IsGrounded := by
  have keeps := (store.extends_create operator producers name).keeps
  -- A node after the call was there before or is the new one.
  have origin (id : Nat) (node : Node)
      (found : (store.create operator producers name).1.find? id = some node) :
      store.find? id = some node ∨ id = store.slots.size ∧ node.producers = producers ∧
        (node.operator.isParameter = true → producers = []) := by
    rw [find?_create] at found
    split at found
    next new =>
      split at found
      · cases found
      next accepted =>
        cases found
        exact .inr ⟨new, rfl, by simpa using accepted⟩
    · exact .inl found
  constructor
  · intro id node found p read
    rcases origin id node found with old | ⟨rfl, same, -⟩
    · obtain ⟨below, held⟩ := grounded.reads id node old p read
      exact ⟨below, (keeps.becomes held).1⟩
    · have held := reads p (same ▸ read)
      obtain ⟨_, held'⟩ := Option.isSome_iff_exists.mp held
      exact ⟨lt_size_of_find? held', (keeps.becomes held).1⟩
  · intro id node found parameter
    rcases origin id node found with old | ⟨rfl, same, empty⟩
    · exact grounded.parameter id node old parameter
    · rw [same, empty parameter]

theorem IsGrounded.setTypes {store : Store} (grounded : store.IsGrounded) (other : Nat)
    (types : List TensorType) : (store.setTypes other types).IsGrounded := by
  -- Whether a store is grounded depends on producers and operators, which stay as they are.
  have origin (id : Nat) (node : Node)
      (found : (store.setTypes other types).find? id = some node) :
      ∃ before, store.find? id = some before ∧ node.producers = before.producers ∧
        node.operator = before.operator := by
    rw [find?_setTypes] at found
    split at found
    next same =>
      obtain ⟨before, held, rfl⟩ := Option.map_eq_some_iff.mp found
      exact ⟨before, same ▸ held, rfl, rfl⟩
    · exact ⟨node, found, rfl, rfl⟩
  constructor
  · intro id node found p read
    obtain ⟨before, held, same, -⟩ := origin id node found
    obtain ⟨below, held'⟩ := grounded.reads id before held p (same ▸ read)
    rw [isSome_find?_setTypes]
    exact ⟨below, held'⟩
  · intro id node found parameter
    obtain ⟨before, held, same, sameOperator⟩ := origin id node found
    rw [same]
    exact grounded.parameter id before held (sameOperator ▸ parameter)

theorem IsGrounded.evolves {store later : Store} (grounded : store.IsGrounded)
    (evolves : store.Evolves later) : later.IsGrounded := by
  refine evolves.preserves (fun store later step held => ?_) grounded
  cases step with
  | create operator name reads => exact held.create operator name reads
  | resolve resolves => exact held.setTypes _ _

/-! ### Numbers of nodes -/

/-- Numbers that were passed over stay unused. -/
structure Continues (store later : Store) : Prop where
  size_le : store.slots.size ≤ later.slots.size
  new : ∀ id, (later.find? id).isSome = true →
    (store.find? id).isSome = true ∨ store.slots.size ≤ id

theorem Continues.refl (store : Store) : store.Continues store :=
  ⟨Nat.le_refl _, fun _ found => .inl found⟩

theorem Continues.trans {first second third : Store} (before : first.Continues second)
    (after : second.Continues third) : first.Continues third := by
  refine ⟨Nat.le_trans before.size_le after.size_le, fun id found => ?_⟩
  rcases after.new id found with earlier | above
  · exact before.new id earlier
  · exact .inr (Nat.le_trans before.size_le above)

theorem Step.continues {store later : Store} (step : Step store later) : store.Continues later := by
  cases step with
  | @create operator producers name reads =>
    constructor
    · unfold Store.create
      dsimp only
      split <;> simp
    · intro id found
      rw [find?_create] at found
      split at found
      next next' => exact .inr (Nat.le_of_eq next'.symm)
      · exact .inl found
  | resolve resolves =>
    refine ⟨by simp [setTypes], fun id found => .inl ?_⟩
    rwa [isSome_find?_setTypes] at found

/-- A node that was not there has a larger number than all that were. -/
theorem Evolves.lt_of_new {store later : Store} (evolves : store.Evolves later) {made id : Nat}
    (found : (store.find? made).isSome = true) (absent : ¬(store.find? id).isSome = true)
    (found' : (later.find? id).isSome = true) : made < id := by
  have continues : store.Continues later :=
    evolves.preserves (fun _ _ step before => before.trans step.continues) (.refl store)
  obtain ⟨node, held⟩ := Option.isSome_iff_exists.mp found
  exact Nat.lt_of_lt_of_le (lt_size_of_find? held) ((continues.new id found').resolve_left absent)

end Store

end OpGraph
