import OpGraph.Graph.Translation
import OpGraph.Proofs.Graph.Stopping
import OpGraph.Proofs.Kernel.Static

/-!
# Graphs of constant types

In a graph whose parameters have constant types, every type that inference finds is constant,
whatever else happens to the store on the way (`IsStatic.evolves`). Once all of its nodes are
resolved, each of them is translated as its kind allows (`IsStatic.translates`), so the graph is
translated into a dialect unless a node has no translator for it.
-/
namespace OpGraph.Graph

open Store

variable {store later : Store} {graph : Graph}

/-- The types known are constant, and those of operations are computed from their producers. -/
structure IsStatic (store : Store) (graph : Graph) : Prop extends graph.Inferable store where
  computed : ∀ id ∈ graph.nodes, store.IsComputed id
  constant : ∀ id ∈ graph.nodes, ∀ types, (store.node id).types = some types →
    ∀ type ∈ types, type.isConstant = true

theorem WellFormed.isStatic (wellFormed : graph.WellFormed store)
    (constant : ∀ id ∈ graph.inputs, ∀ type, store.outputType id = .ok type →
      type.isConstant = true) : graph.IsStatic store := by
  refine ⟨wellFormed.inferable, ?_, ?_⟩
  · intro id member operation types typed
    rw [wellFormed.fresh id member, initialTypes_of_operation operation] at typed
    cases typed
  · intro id member types typed type among
    -- Before inference only the parameters have types.
    have resolved : store.isResolved id = true := by rw [isResolved, typed]; rfl
    rw [wellFormed.isResolved_eq_isParameter member] at resolved
    obtain ⟨declared, rfl⟩ := wellFormed.inferable.single id member types typed
    obtain rfl := List.mem_singleton.mp among
    refine constant id ((wellFormed.inputs id).mpr ⟨member, resolved⟩) type ?_
    rw [Store.outputType, Store.outputTypes, typed]
    rfl

namespace IsStatic

/-- What a node reads is constant. -/
theorem inputTypes (isStatic : graph.IsStatic store) {id : Nat} (member : id ∈ graph.nodes)
    {inputs : List TensorType} (typed : store.inputTypes id = .ok inputs) :
    ∀ input ∈ inputs, input.isConstant = true := by
  intro input among
  obtain ⟨-, outputs⟩ := inputTypes_eq_ok.mp typed
  obtain ⟨p, read, output⟩ := Outcome.forall₂_mem_left outputs.flip input among
  simp only [Store.outputType, Outcome.bind_eq_ok, outputTypes_eq_ok] at output
  obtain ⟨types, known, first⟩ := output
  -- What is read is the one output of a producer, and producers are members.
  have producer := isStatic.closed id member p read
  obtain ⟨type, rfl⟩ := isStatic.single p producer types known
  cases first
  exact isStatic.constant p producer _ known input (by simp)

/-- The types computed of a node are constant. -/
theorem onConstants (isStatic : graph.IsStatic store) {id : Nat} (member : id ∈ graph.nodes)
    (operation : store.isParameter id = false) {types : List TensorType}
    (computed : store.computeTypes id = .ok types) :
    ∃ inputs type, store.inputTypes id = .ok inputs ∧ types = [type] ∧
      (store.operator id).OnConstants inputs type := by
  obtain ⟨inputs, typed, inferred⟩ := computeTypes_eq_ok.mp computed
  obtain ⟨type, single, constant⟩ := (isStatic.integral id member operation).onConstants
    (isStatic.inputTypes member typed) inferred
  exact ⟨inputs, type, typed, single, constant⟩

theorem step (isStatic : graph.IsStatic store) (step : Step store later) :
    graph.IsStatic later := by
  refine ⟨isStatic.toInferable.step step,
    fun id member => step.isComputed (isStatic.found id member) (isStatic.computed id member), ?_⟩
  intro id member types typed type among
  rcases step.types (isStatic.found id member) typed with known | resolves
  · exact isStatic.constant id member types known type among
  -- A type that is new was inferred from types known before, which are constant.
  · obtain ⟨inputs, output, -, rfl, constant⟩ :=
      isStatic.onConstants member resolves.operation resolves.computed
    obtain rfl := List.mem_singleton.mp among
    exact constant.isConstant

theorem evolves (isStatic : graph.IsStatic store) (evolves : store.Evolves later) :
    graph.IsStatic later := by
  have kept : ∀ store later, Step store later → graph.IsStatic store → graph.IsStatic later :=
    fun _ _ step held => held.step step
  exact evolves.preserves kept isStatic

section Resolved

variable (isStatic : graph.IsStatic store)
  (resolved : ∀ id ∈ graph.nodes, store.isResolved id = true)

include isStatic resolved

theorem outputTypes_single {id : Nat} (member : id ∈ graph.nodes) :
    ∃ type, store.outputTypes id = .ok [type] ∧ type.isConstant = true := by
  obtain ⟨types, typed⟩ := Option.isSome_iff_exists.mp (resolved id member)
  obtain ⟨type, rfl⟩ := isStatic.single id member types typed
  exact ⟨type, (Store.outputTypes_eq_ok _ _ _).mpr typed,
    isStatic.constant id member _ typed type (by simp)⟩

/-- The types around a node are those that its operator accepts and infers. -/
theorem translates {id : Nat} (member : id ∈ graph.nodes)
    (operation : store.isParameter id = false) : (store.view id).Translates := by
  obtain ⟨types, typed⟩ := Option.isSome_iff_exists.mp (resolved id member)
  -- The types of the node were computed some time before, and would be so again now.
  have computed := isStatic.computed id member operation types typed
  obtain ⟨inputs, type, read, rfl, constant⟩ := isStatic.onConstants member operation computed
  have arity : (store.producers id).length = inputs.length :=
    (inputTypes_eq_ok.mp read).2.length_eq
  have short := isStatic.operators id member
  have areShort : inputs.all TensorType.isShort = true := by
    obtain ⟨inputs', read', areShort⟩ := isStatic.toInferable.inputTypes member
      (inputTypes_eq_ok.mp read).1
    cases read.symm.trans read'
    exact areShort
  have output : type.isShort = true := by simpa using isStatic.areShort id member _ typed
  have view : store.view id = ⟨store.name id, store.operator id, inputs.length, .ok inputs,
      .ok [type]⟩ := by
    rw [Store.view, arity, read, (Store.outputTypes_eq_ok _ _ _).mpr typed]
  rw [view]
  exact constant.translates short areShort output (store.name id)

end Resolved

end IsStatic

/-! ### Graphs -/

/-- There is one kernel for each operation, under its name, and producers have theirs first. -/
def IsCoveredBy (store : Store) (graph : Graph) (dialect : Dialect)
    (kernels : List (String × Fragment)) : Prop :=
  ∃ order, Traversal.IsOrder store.producers graph.nodes order ∧
    List.Forall₂ (fun id kernel => kernel.1 = store.name id ∧
      kernel.2.IsKernel (store.operator id) dialect)
      (order.filter fun id => !store.isParameter id) kernels

section Graphs

variable (selfContained : graph.IsSelfContained store) {dialect : Dialect}

include selfContained

/-- A graph is translated when all of its operations are. -/
theorem translate_succeeds (each : ∀ id ∈ graph.nodes, store.isParameter id = false →
      (store.view id).IsTranslated dialect) :
    ∃ kernels, graph.translate .library store dialect = .ok kernels ∧
      graph.IsCoveredBy store dialect kernels := by
  obtain ⟨order, sorted, isOrder⟩ :=
    isOrder_of_descending selfContained.distinct selfContained.descending
  -- The traversal goes over the operations among the members, in some order.
  have steps : ∀ id ∈ order.filter fun id => !store.isParameter id, ∃ kernel,
      translateNode .library store dialect id = .ok kernel ∧
        kernel.1 = store.name id ∧ kernel.2.IsKernel (store.operator id) dialect := by
    intro id among
    obtain ⟨listed, operation⟩ := List.mem_filter.mp among
    obtain ⟨fragment, written, isKernel⟩ := each id ((isOrder.mem_iff id).mp listed)
      (by simpa using operation)
    exact ⟨(store.name id, fragment), by rw [translateNode, written]; rfl, rfl, isKernel⟩
  obtain ⟨kernels, written, covered⟩ := Outcome.exists_forall₂ steps
  refine ⟨kernels, ?_, order, isOrder, covered⟩
  rw [translate, sorted]
  exact (Outcome.mapM_eq_ok_iff _ _ _).mpr written

/-- A graph is refused as soon as a node is, if there is one way only in which nodes are. -/
theorem translate_refuses {failure : Failure} {id : Nat} (member : id ∈ graph.nodes)
    (operation : store.isParameter id = false)
    (refused : Registry.library.translate (store.view id) dialect = .error failure)
    (each : ∀ id ∈ graph.nodes, store.isParameter id = false →
      Outcome.Fails (· = failure) (Registry.library.translate (store.view id) dialect)) :
    graph.translate .library store dialect = .error failure := by
  obtain ⟨order, sorted, isOrder⟩ :=
    isOrder_of_descending selfContained.distinct selfContained.descending
  have steps : ∀ id ∈ order.filter fun id => !store.isParameter id,
      Outcome.Fails (· = failure) (translateNode .library store dialect id) := by
    intro id among
    obtain ⟨listed, operation⟩ := List.mem_filter.mp among
    exact (each id ((isOrder.mem_iff id).mp listed) (by simpa using operation)).bind
      fun fragment _ => .ok _
  have fails := Outcome.Fails.mapM steps
  rw [translate, sorted, Outcome.ok_bind]
  cases ran : (order.filter fun id => !store.isParameter id).mapM
      (translateNode .library store dialect) with
  | error failure' => rw [fails failure' ran]
  | ok kernels =>
    -- The traversal comes by the node that is refused.
    have among : id ∈ order.filter fun id => !store.isParameter id := by
      simp [isOrder.mem_iff id, member, operation]
    obtain ⟨kernel, -, written⟩ :=
      Outcome.forall₂_mem_left ((Outcome.mapM_eq_ok_iff _ _ _).mp ran) id among
    rw [translateNode, refused] at written
    cases written

end Graphs

end OpGraph.Graph
