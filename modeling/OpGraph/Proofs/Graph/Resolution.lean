import OpGraph.Graph.Inference
import OpGraph.Proofs.Graph.Store
import OpGraph.Proofs.Graph.Traversal

/-!
# Resolving nodes

One step of inference sets the types of one node, which is no parameter and was not resolved, to
what its operator infers from the types of its producers (`infer_cases`). The types are reported
only then, so a node whose types cannot be written fails and is resolved all the same. What every
such step keeps is kept by a whole run, whether it succeeds or stops at a failure
(`resolveAll_keeps`), and a run that succeeds leaves no node of its list unresolved
(`resolveAll_resolves`).
-/
namespace OpGraph

namespace Store

variable {store resolved : Store} {id : Nat} {types : List TensorType}

theorem computeTypes_eq_ok :
    store.computeTypes id = .ok types ↔
      ∃ inputs, store.inputTypes id = .ok inputs ∧
        (store.operator id).infer inputs = .ok types := by
  rw [computeTypes, Outcome.bind_eq_ok]
  refine exists_congr fun inputs => and_congr_right fun _ => ?_
  cases (store.operator id).infer inputs <;> simp [Except.mapError]

theorem inputTypes_eq_ok {inputs : List TensorType} :
    store.inputTypes id = .ok inputs ↔
      (∀ p ∈ store.producers id, store.isResolved p = true) ∧
        List.Forall₂ (fun p type => store.outputType p = .ok type) (store.producers id) inputs := by
  have required (p : Nat) :
      store.requireResolved id p = .ok () ↔ store.isResolved p = true := by
    unfold requireResolved
    split <;> simp_all
  simp only [inputTypes, Outcome.bind_eq_ok, Outcome.exists_unit, Outcome.forM_eq_ok_iff, required,
    Outcome.mapM_eq_ok_iff]

/-- What a node that is not resolved is resolved to. -/
structure Resolves (store : Store) (id : Nat) (types : List TensorType) : Prop where
  operation : store.isParameter id = false
  unresolved : store.isResolved id = false
  computed : store.computeTypes id = .ok types

theorem report_eq (types : List TensorType) :
    report types = if types.all TensorType.isShort then .ok types else .error .numberTooLong := by
  have written := mapM_writeWhen TensorType.isShort TensorType.text types
  change types.mapM TensorType.write = _ at written
  rw [report, written]
  cases types.all TensorType.isShort <;> rfl

@[simp] theorem report_eq_ok {result : List TensorType} :
    report types = .ok result ↔ types.all TensorType.isShort = true ∧ types = result := by
  rw [report_eq]
  cases types.all TensorType.isShort <;> simp

/-- A node that is not resolved is resolved, even where its types cannot be reported, or else
nothing changes. -/
theorem infer_cases (unresolved : store.isResolved id = false) :
    (∃ types, store.Resolves id types ∧
        store.infer id = (store.setTypes id types, report types)) ∨
      (∀ types, ¬store.Resolves id types) ∧
        ∃ failure, store.infer id = (store, .error failure) := by
  cases parameter : store.isParameter id with
  | true =>
    -- A parameter without types cannot be resolved.
    have none : (store.node id).types = none := by
      simpa [isResolved, Option.isSome_iff_ne_none] using unresolved
    refine .inr ⟨fun types resolves => ?_, .outputsUnresolved (store.name id), ?_⟩
    · rw [resolves.operation] at parameter
      cases parameter
    · simp [infer, parameter, outputTypes, none]
  | false =>
    simp only [infer, parameter, unresolved, Bool.false_eq_true, if_false]
    cases computed : store.computeTypes id with
    | ok types => exact .inl ⟨types, ⟨parameter, unresolved, computed⟩, rfl⟩
    | error failure =>
      refine .inr ⟨fun types resolves => ?_, failure, rfl⟩
      rw [resolves.computed] at computed
      cases computed

theorem Resolves.infer (resolves : store.Resolves id types) :
    store.infer id = (store.setTypes id types, report types) := by
  rw [Store.infer, resolves.operation, resolves.unresolved, resolves.computed]
  rfl

theorem infer_eq_ok (unresolved : store.isResolved id = false) :
    store.infer id = (resolved, .ok types) ↔ store.Resolves id types ∧
      types.all TensorType.isShort = true ∧ resolved = store.setTypes id types := by
  constructor
  · intro inferred
    obtain ⟨types', resolves, same⟩ | ⟨-, failure, same⟩ := infer_cases unresolved
    · rw [same, Prod.mk.injEq, report_eq_ok] at inferred
      obtain ⟨rfl, short, rfl⟩ := inferred
      exact ⟨resolves, short, rfl⟩
    · rw [same] at inferred
      cases inferred
  · rintro ⟨resolves, short, rfl⟩
    rw [resolves.infer, report_eq_ok.mpr ⟨short, rfl⟩]

/-- The types of an unresolved node are not among what a node is computed from. -/
theorem computeTypes_setTypes {other : Nat} {types' : List TensorType}
    (unresolved : store.isResolved id = false) (computed : store.computeTypes other = .ok types') :
    (store.setTypes id types).computeTypes other = .ok types' := by
  obtain ⟨inputs, typed, inferred⟩ := computeTypes_eq_ok.mp computed
  obtain ⟨resolved, outputs⟩ := inputTypes_eq_ok.mp typed
  have different : ∀ p ∈ store.producers other, p ≠ id := by
    rintro p member rfl
    rw [resolved p member] at unresolved
    cases unresolved
  refine computeTypes_eq_ok.mpr ⟨inputs, inputTypes_eq_ok.mpr ⟨?_, ?_⟩, ?_⟩
  · rw [producers_setTypes]
    exact fun p member => store.isResolved_setTypes id p types (resolved p member)
  · rw [producers_setTypes]
    have both := (List.forall₂_and_left _ _).mpr ⟨different, outputs⟩
    refine both.imp fun p type output => ?_
    rw [outputType_setTypes_of_ne store id p types output.1]
    exact output.2
  · rwa [operator_setTypes]

/-- What the resolution of nodes changes: the types of nodes that were not resolved. -/
structure Advances (store advanced : Store) : Prop where
  name : ∀ id, advanced.name id = store.name id
  operator : ∀ id, advanced.operator id = store.operator id
  producers : ∀ id, advanced.producers id = store.producers id
  resolved : ∀ id, store.isResolved id = true → advanced.node id = store.node id

theorem Advances.refl (store : Store) : store.Advances store :=
  ⟨fun _ => rfl, fun _ => rfl, fun _ => rfl, fun _ _ => rfl⟩

theorem Advances.setTypes {advanced : Store} (advances : store.Advances advanced)
    (unresolved : advanced.isResolved id = false) :
    store.Advances (advanced.setTypes id types) := by
  refine ⟨?_, ?_, ?_, fun other resolved => ?_⟩
  · simpa using advances.name
  · simpa using advances.operator
  · simpa using advances.producers
  · have same := advances.resolved other resolved
    have different : other ≠ id := by
      rintro rfl
      rw [isResolved, same, ← isResolved, resolved] at unresolved
      cases unresolved
    rw [node_setTypes_of_ne _ id other types different, same]

theorem Advances.outputType {advanced : Store} (advances : store.Advances advanced)
    (resolved : store.isResolved id = true) : advanced.outputType id = store.outputType id := by
  rw [Store.outputType, Store.outputType, outputTypes, outputTypes, advances.resolved id resolved,
    advances.name id]

/-- A node other than a parameter has no types but those computed from its producers. -/
def IsComputed (store : Store) (id : Nat) : Prop :=
  store.isParameter id = false → ∀ types, (store.node id).types = some types →
    store.computeTypes id = .ok types

theorem IsComputed.setTypes {other : Nat} (computed : store.IsComputed other)
    (resolves : store.Resolves id types) : (store.setTypes id types).IsComputed other := by
  intro operation types' typed
  rw [isParameter_setTypes] at operation
  refine computeTypes_setTypes resolves.unresolved ?_
  by_cases same : other = id
  · subst same
    cases found : store.find? other with
    | none =>
      rw [node, find?_setTypes, if_pos rfl, found] at typed
      cases typed
    | some node =>
      rw [node_of_find? _ _ _ (store.find?_setTypes_self other types node found)] at typed
      cases typed
      exact resolves.computed
  · rw [node_setTypes_of_ne store id other types same] at typed
    exact computed operation types' typed

end Store

namespace Graph

open Store

/-- What each resolution of a node of the list keeps, their run keeps. -/
theorem resolveAll_keeps (kept : Store → Prop) (ids : List Nat)
    (step : ∀ store, ∀ id ∈ ids, ∀ types, kept store → store.Resolves id types →
      kept (store.setTypes id types))
    (store : Store) (held : kept store) : kept (resolveAll store ids).1 := by
  induction ids generalizing store with
  | nil => exact held
  | cons id ids ih =>
    have later := ih fun store other member => step store other (by simp [member])
    rw [resolveAll]
    split
    · exact later store held
    next unresolved =>
      have unresolved : store.isResolved id = false := by simpa using unresolved
      -- A node whose types cannot be reported is resolved and ends the run.
      obtain ⟨types, resolves, inferred⟩ | ⟨-, failure, inferred⟩ := infer_cases unresolved
      · have set := step store id (by simp) types held resolves
        rw [inferred]
        cases report types with
        | ok types' => exact later _ set
        | error failure => exact set
      · rw [inferred]
        exact held

theorem isResolved_resolveAll (store : Store) (ids : List Nat) (id : Nat)
    (resolved : store.isResolved id = true) : (resolveAll store ids).1.isResolved id = true :=
  resolveAll_keeps (fun store => store.isResolved id = true) ids
    (fun store other _ types held _ => store.isResolved_setTypes other id types held) store resolved

theorem resolveAll_advances (store : Store) (ids : List Nat) :
    store.Advances (resolveAll store ids).1 :=
  resolveAll_keeps store.Advances ids
    (fun _ _ _ _ advances resolves => advances.setTypes resolves.unresolved) store (.refl store)

theorem isComputed_resolveAll (store : Store) (ids : List Nat) (id : Nat)
    (computed : store.IsComputed id) : (resolveAll store ids).1.IsComputed id :=
  resolveAll_keeps (fun store => store.IsComputed id) ids
    (fun _ _ _ _ computed resolves => computed.setTypes resolves) store computed

/-- A run that succeeds resolves all of its nodes that exist. -/
theorem resolveAll_resolves (ids : List Nat) (store : Store)
    (succeeded : (resolveAll store ids).2 = .ok ()) (id : Nat) (member : id ∈ ids)
    (found : (store.find? id).isSome = true) :
    (resolveAll store ids).1.isResolved id = true := by
  induction ids generalizing store with
  | nil => cases member
  | cons first ids ih =>
    rw [resolveAll] at succeeded ⊢
    split
    next done =>
      rw [if_pos done] at succeeded
      rcases List.mem_cons.mp member with rfl | later
      -- A resolved node stays resolved while the rest is inferred.
      · exact isResolved_resolveAll store ids id done
      · exact ih store succeeded later found
    next undone =>
      have unresolved : store.isResolved first = false := by simpa using undone
      rw [if_neg undone] at succeeded
      split
      next resolved types inferred =>
        rw [inferred] at succeeded
        obtain ⟨-, -, rfl⟩ := (infer_eq_ok unresolved).mp inferred
        rcases List.mem_cons.mp member with rfl | later
        · refine isResolved_resolveAll _ ids id ?_
          obtain ⟨node, held⟩ := Option.isSome_iff_exists.mp found
          have set := store.find?_setTypes_self id types node held
          rw [isResolved, node_of_find? _ _ _ set]
          rfl
        · exact ih _ succeeded later (by simpa using found)
      next failure inferred =>
        rw [inferred] at succeeded
        cases succeeded

theorem infer_eq (store : Store) (graph : Graph) (order : List Nat)
    (sorted : graph.topological store = .ok order) :
    infer store graph = ((resolveAll store order).1, do
      (resolveAll store order).2
      graph.outputTypes (resolveAll store order).1 >>= report) := by
  rw [infer, sorted]
  dsimp only
  split
  next resolved ran => rw [ran]; rfl
  next resolved failure ran => rw [ran]; rfl

theorem infer_store (store : Store) (graph : Graph) (order : List Nat)
    (sorted : graph.topological store = .ok order) :
    (infer store graph).1 = (resolveAll store order).1 := by
  rw [infer_eq store graph order sorted]

theorem infer_succeeds_iff (store : Store) (graph : Graph) (types : List TensorType) :
    (infer store graph).2 = .ok types ↔
      ∃ order, graph.topological store = .ok order ∧ (resolveAll store order).2 = .ok () ∧
        graph.outputTypes (resolveAll store order).1 = .ok types ∧
          types.all TensorType.isShort = true := by
  cases sorted : graph.topological store with
  | error failure => simp [infer, sorted]
  | ok order =>
    simp only [infer_eq store graph order sorted, Outcome.bind_eq_ok, Outcome.exists_unit,
      report_eq_ok, Except.ok.injEq, exists_eq_left']
    refine and_congr_right fun _ => ?_
    constructor
    · rintro ⟨_, given, short, rfl⟩
      exact ⟨given, short⟩
    · rintro ⟨given, short⟩
      exact ⟨types, given, short, rfl⟩

/-- What inference gives are the types that it leaves at the outputs. -/
theorem outputTypes_infer (store : Store) (graph : Graph) (types : List TensorType)
    (succeeded : (infer store graph).2 = .ok types) :
    graph.outputTypes (infer store graph).1 = .ok types := by
  obtain ⟨order, sorted, -, outputs, -⟩ := (infer_succeeds_iff store graph types).mp succeeded
  rwa [infer_store store graph order sorted]

theorem infer_advances (store : Store) (graph : Graph) :
    store.Advances (infer store graph).1 := by
  cases sorted : graph.topological store with
  | error failure =>
    rw [infer, sorted]
    exact .refl store
  | ok order =>
    rw [infer_store store graph order sorted]
    exact resolveAll_advances store order

/-- Inference that succeeds resolves all nodes that exist and come after their producers. -/
theorem infer_resolves (store : Store) (graph : Graph) (types : List TensorType)
    (succeeded : (infer store graph).2 = .ok types)
    (found : ∀ id ∈ graph.nodes, (store.find? id).isSome = true)
    (descending : ∀ id ∈ graph.nodes, ∀ p ∈ store.producers id, p < id) :
    ∀ id ∈ graph.nodes, (infer store graph).1.isResolved id = true := by
  intro id member
  obtain ⟨order, sorted, ran, -⟩ := (infer_succeeds_iff store graph types).mp succeeded
  obtain ⟨order', sorted', isOrder⟩ := Traversal.isOrder_topological
    (Traversal.nodup_of_topological order sorted) descending
  obtain rfl : order = order' := Except.ok.inj (sorted.symm.trans sorted')
  rw [infer_store store graph order sorted]
  exact resolveAll_resolves order store ran id ((isOrder.mem_iff id).mpr member) (found id member)

end Graph

end OpGraph
