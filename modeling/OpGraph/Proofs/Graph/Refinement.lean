import OpGraph.Proofs.Graph.Resolution
import OpGraph.Proofs.Operator.Refinement

/-!
# Inference on refined graphs

Two graphs that differ only in the types of their parameters, those of one refining those of the
other. Main result: if inference succeeds on the more specific graph, it succeeds on the more
general one, and what it infers for a node of the first refines what it infers for that node of
the second (`infer_of_refines`).

Proof strategy: both graphs are resolved in one order, as it depends on the producers only. The
types on either side refine each other before each step, and one step of the operator keeps
that (`resolveAll_refines`).
-/
namespace OpGraph

/-- The same operator, or two parameters of which the first has the more specific type. -/
inductive Operator.Refines : Operator → Operator → Prop where
  | same (operator : Operator) : Refines operator operator
  | parameter {specific general : TensorType} (refines : specific.Refines general) :
    Refines (.parameter specific) (.parameter general)

theorem Operator.Refines.isParameter {specific general : Operator}
    (refines : specific.Refines general) : specific.isParameter = general.isParameter := by
  cases refines <;> rfl

/-- One node in two graphs: resolved in both or in none, and to types that refine each other. -/
structure Node.Refines (specific general : Node) : Prop where
  producers : specific.producers = general.producers
  operator : specific.operator.Refines general.operator
  types : Option.Rel (List.Forall₂ TensorType.Refines) specific.types general.types

/-- One node of two graphs that are not resolved yet and differ in the types of parameters. -/
structure Node.Specializes (specific general : Node) : Prop where
  name : specific.name = general.name
  producers : specific.producers = general.producers
  operator : specific.operator.Refines general.operator
  unresolved : specific.types = Store.initialTypes specific.operator
  unresolved' : general.types = Store.initialTypes general.operator

theorem Node.Specializes.refines {specific general : Node}
    (specializes : specific.Specializes general) : specific.Refines general := by
  refine ⟨specializes.producers, specializes.operator, ?_⟩
  rw [specializes.unresolved, specializes.unresolved']
  have operator := specializes.operator
  generalize specific.operator = held at operator ⊢
  generalize general.operator = held' at operator ⊢
  cases operator with
  | same =>
    cases held <;> first | exact .none | exact .some (.cons (.refl _) .nil)
  | parameter refines => exact .some (.cons refines .nil)

/-- Two stores hold a node each under one number, and the first of them refines the second. -/
def Store.RefinesAt (specific general : Store) (id : Nat) : Prop :=
  ∃ node node', specific.find? id = some node ∧ general.find? id = some node' ∧
    node.Refines node'

namespace Store.RefinesAt

variable {specific general : Store} {id : Nat} (refines : RefinesAt specific general id)

include refines

theorem producers : specific.producers id = general.producers id := by
  obtain ⟨node, node', found, found', same⟩ := refines
  rw [Store.producers, Store.producers, node_of_find? _ _ _ found, node_of_find? _ _ _ found']
  exact same.producers

theorem operator : (specific.operator id).Refines (general.operator id) := by
  obtain ⟨node, node', found, found', same⟩ := refines
  rw [Store.operator, Store.operator, node_of_find? _ _ _ found, node_of_find? _ _ _ found']
  exact same.operator

theorem types : Option.Rel (List.Forall₂ TensorType.Refines) (specific.node id).types
    (general.node id).types := by
  obtain ⟨node, node', found, found', same⟩ := refines
  rw [node_of_find? _ _ _ found, node_of_find? _ _ _ found']
  exact same.types

theorem isResolved : specific.isResolved id = general.isResolved id := by
  have types := refines.types
  unfold Store.isResolved
  generalize (specific.node id).types = known at types ⊢
  generalize (general.node id).types = known' at types ⊢
  cases types <;> rfl

theorem isParameter : specific.isParameter id = general.isParameter id :=
  refines.operator.isParameter

theorem outputType {type : TensorType} (typed : specific.outputType id = .ok type) :
    ∃ type', general.outputType id = .ok type' ∧ type.Refines type' := by
  have types := refines.types
  unfold Store.outputType outputTypes at typed ⊢
  generalize (specific.node id).types = known at types typed
  generalize (general.node id).types = known' at types ⊢
  cases types with
  | none => simp at typed
  | some each =>
    rw [Outcome.ok_bind] at typed ⊢
    cases each with
    | nil => cases typed
    | @cons _ type' _ _ head _ =>
      cases typed
      exact ⟨type', rfl, head⟩

end Store.RefinesAt

namespace Graph

open Store

variable {specific general : Store}

/-- The types that the producers hand on refine each other. -/
private theorem inputTypes_refines {id : Nat} (refines : RefinesAt specific general id)
    (each : ∀ p ∈ specific.producers id, RefinesAt specific general p) {inputs : List TensorType}
    (typed : specific.inputTypes id = .ok inputs) :
    ∃ inputs', general.inputTypes id = .ok inputs' ∧
      List.Forall₂ TensorType.Refines inputs inputs' := by
  obtain ⟨resolved, outputs⟩ := inputTypes_eq_ok.mp typed
  obtain ⟨inputs', found, related⟩ := Outcome.forall₂_choose outputs
    fun p member type output => (each p member).outputType output
  refine ⟨inputs', inputTypes_eq_ok.mpr ⟨fun p member => ?_, ?_⟩, related⟩
  · rw [← refines.producers] at member
    rw [← (each p member).isResolved]
    exact resolved p member
  · rwa [← refines.producers]

/-- One node is resolved on both sides. -/
theorem resolves_refines {id : Nat} (refines : RefinesAt specific general id)
    (each : ∀ p ∈ specific.producers id, RefinesAt specific general p) {types : List TensorType}
    (resolves : specific.Resolves id types) :
    ∃ types', general.Resolves id types' ∧ List.Forall₂ TensorType.Refines types types' := by
  obtain ⟨inputs, typed, inferred⟩ := computeTypes_eq_ok.mp resolves.computed
  obtain ⟨inputs', typed', related⟩ := inputTypes_refines refines each typed
  -- A parameter is no operation, so both operators are one.
  have same : specific.operator id = general.operator id := by
    have operator := refines.operator
    have operation := resolves.operation
    unfold isParameter at operation
    generalize specific.operator id = held at operator operation ⊢
    generalize general.operator id = held' at operator ⊢
    cases operator with
    | same => rfl
    | parameter _ => cases operation
  rw [same] at inferred
  obtain ⟨types', inferred', related'⟩ :=
    Operator.infer_of_refines (general.operator id) inputs inputs' types related inferred
  refine ⟨types', ⟨?_, ?_, computeTypes_eq_ok.mpr ⟨inputs', typed', inferred'⟩⟩, related'⟩
  · rw [← refines.isParameter, resolves.operation]
  · rw [← refines.isResolved, resolves.unresolved]

theorem refinesAt_setTypes {id other : Nat} {types types' : List TensorType}
    (refines : RefinesAt specific general other)
    (related : List.Forall₂ TensorType.Refines types types') :
    RefinesAt (specific.setTypes id types) (general.setTypes id types') other := by
  obtain ⟨node, node', found, found', same⟩ := refines
  by_cases here : other = id
  · subst here
    exact ⟨_, _, find?_setTypes_self _ _ _ node found, find?_setTypes_self _ _ _ node' found',
      same.producers, same.operator, .some related⟩
  · refine ⟨node, node', ?_, ?_, same⟩
    · rw [find?_setTypes, if_neg here, found]
    · rw [find?_setTypes, if_neg here, found']

/-- A run on the specific side is followed step by step on the general side. -/
theorem resolveAll_refines (scope ids : List Nat) (specific general : Store)
    (refines : ∀ id ∈ scope, RefinesAt specific general id)
    (within : ∀ id ∈ ids, id ∈ scope ∧ ∀ p ∈ specific.producers id, p ∈ scope)
    (succeeded : (resolveAll specific ids).2 = .ok ()) :
    (resolveAll general ids).2 = .ok () ∧
      ∀ id ∈ scope, RefinesAt (resolveAll specific ids).1 (resolveAll general ids).1 id := by
  induction ids generalizing specific general with
  | nil => exact ⟨rfl, refines⟩
  | cons id ids ih =>
    obtain ⟨inScope, closed⟩ := within id (by simp)
    have later : ∀ other ∈ ids, other ∈ scope ∧ ∀ p ∈ specific.producers other, p ∈ scope :=
      fun other member => within other (by simp [member])
    -- A node is resolved in both stores or in neither, so both runs take the same branch.
    have same := (refines id inScope).isResolved
    cases resolved : specific.isResolved id with
    | true =>
      rw [resolved] at same
      simp only [resolveAll, resolved, ← same, if_true] at succeeded ⊢
      exact ih specific general refines later succeeded
    | false =>
      rw [resolved] at same
      simp only [resolveAll, resolved, ← same, Bool.false_eq_true, if_false] at succeeded ⊢
      rcases inferred : specific.infer id with ⟨left, failure | types⟩
      · rw [inferred] at succeeded
        cases succeeded
      · obtain ⟨resolves, short, rfl⟩ := (infer_eq_ok resolved).mp inferred
        obtain ⟨types', resolves', related⟩ := resolves_refines (refines id inScope)
          (fun p member => refines p (closed p member)) resolves
        have short' := TensorType.areShort_of_refines related short
        have inferred' := (infer_eq_ok same.symm).mpr ⟨resolves', short', rfl⟩
        rw [inferred] at succeeded
        simp only [inferred'] at succeeded ⊢
        refine ih _ _ (fun other member => refinesAt_setTypes (refines other member) related)
          ?_ succeeded
        simpa using later

/-- Inference on the more specific of two graphs that are not resolved yet carries over to the
more general one, for the outputs and for every node; and every node is resolved, since nodes
are made after their producers. -/
theorem infer_monotone (graph : Graph) (specific general : Store)
    (alike : ∀ id ∈ graph.nodes ++ graph.outputs, ∃ node node', specific.find? id = some node ∧
      general.find? id = some node' ∧ node.Specializes node')
    (closed : ∀ id ∈ graph.nodes, ∀ p ∈ specific.producers id, p ∈ graph.nodes)
    (types : List TensorType) (accepted : (infer specific graph).2 = .ok types) :
    ∃ types', (infer general graph).2 = .ok types' ∧
      List.Forall₂ TensorType.Refines types types' ∧
      (∀ id ∈ graph.nodes, Option.Rel (List.Forall₂ TensorType.Refines)
        ((infer specific graph).1.node id).types ((infer general graph).1.node id).types) ∧
      ((∀ id ∈ graph.nodes, ∀ p ∈ specific.producers id, p < id) →
        ∀ id ∈ graph.nodes, (infer specific graph).1.isResolved id = true) := by
  have refines : ∀ id ∈ graph.nodes ++ graph.outputs, RefinesAt specific general id := by
    intro id member
    obtain ⟨node, node', found, found', specializes⟩ := alike id member
    exact ⟨node, node', found, found', specializes.refines⟩
  obtain ⟨order, sorted, ran, outputs, short⟩ :=
    (infer_succeeds_iff specific graph types).mp accepted
  -- The order is that of the other graph, too.
  have sorted' : graph.topological general = .ok order := by
    have same : ∀ id ∈ graph.nodes, specific.producers id = general.producers id :=
      fun id member => (refines id (by simp [member])).producers
    rw [topological, ← Traversal.topological_congr general.producers same]
    exact sorted
  obtain ⟨-, inside⟩ := Traversal.topological_mem order sorted
  obtain ⟨ran', refines'⟩ := resolveAll_refines (graph.nodes ++ graph.outputs) order specific
    general refines (fun id member => ⟨by simp [inside id member], fun p read => by
      simp [closed id (inside id member) p read]⟩) ran
  obtain ⟨types', outputs', related⟩ := Outcome.forall₂_choose
    ((Outcome.mapM_eq_ok_iff _ _ _).mp outputs) fun id member type typed =>
      (refines' id (by simp [member])).outputType typed
  refine ⟨types', (infer_succeeds_iff general graph types').mpr ⟨order, sorted', ran',
    (Outcome.mapM_eq_ok_iff _ _ _).mpr outputs', TensorType.areShort_of_refines related short⟩,
    related, ?_, ?_⟩
  · intro id member
    rw [infer_store specific graph order sorted, infer_store general graph order sorted']
    exact (refines' id (by simp [member])).types
  · intro descending
    refine infer_resolves specific graph types accepted (fun id member => ?_) descending
    obtain ⟨node, -, found, -⟩ := alike id (by simp [member])
    rw [found, Option.isSome_some]

/-- Every second element of a parameter of four integers, and of one of which only the rank is
known. -/
theorem infer_monotone_everySecond :
    let store (type : TensorType) : Store := ⟨#[some ⟨"x", .parameter type, [], some [type]⟩,
      some ⟨"every second", .slice (.ofInts [0] [4] [2]), [0], none⟩]⟩
    let graph : Graph := ⟨none, [0], [1], [0, 1]⟩
    ∃ types, (infer (store ⟨.ranked [.dynamic], .dynamic⟩) graph).2 = .ok types ∧
      List.Forall₂ TensorType.Refines [⟨.ofLengths [2], .int32⟩] types := by
  intro store graph
  have refines : TensorType.Refines ⟨.ofLengths [4], .int32⟩ ⟨.ranked [.dynamic], .dynamic⟩ :=
    ⟨rfl, Or.inl rfl⟩
  have sorted : graph.topological (store ⟨.ofLengths [4], .int32⟩) = .ok [0, 1] := by
    simp [topological, Traversal.topological, Traversal.fromSeed, Traversal.unique,
      Traversal.sinks, Traversal.walk, List.eraseDups_cons, store, graph, Store.producers,
      Store.node, Store.find?]
  obtain ⟨types, accepted, related, -⟩ := infer_monotone graph
    (store ⟨.ofLengths [4], .int32⟩) (store ⟨.ranked [.dynamic], .dynamic⟩)
    (by
      intro id member
      have listed : id = 0 ∨ id = 1 := by simpa [graph] using member
      rcases listed with rfl | rfl
      · exact ⟨_, _, rfl, rfl, rfl, rfl, .parameter refines, rfl, rfl⟩
      · exact ⟨_, _, rfl, rfl, rfl, rfl, .same _, rfl, rfl⟩)
    (by simp [graph, store, Store.producers, Store.node, Store.find?]) [⟨.ofLengths [2], .int32⟩]
    ((infer_succeeds_iff _ _ _).mpr ⟨[0, 1], sorted, rfl, rfl, by decide⟩)
  exact ⟨types, accepted, related⟩

end Graph

end OpGraph
