import OpGraph.Proofs.Graph.Evolution
import OpGraph.Proofs.Graph.WellFormed
import OpGraph.Proofs.Operator.Stages
import OpGraph.Proofs.Operator.Written

/-!
# Where inference stops

Inference on a graph of operations with integer attributes resolves every node, or it stops at one
whose producers are all resolved because the operator of this node refuses their types
(`Inferable.infer_error`). It does not matter which nodes were resolved before. As long as the
attributes and the types of parameters can be written, so can all types that are found, and the
only numbers that can be too long are those of a window.

Proof strategy: a run that fails is a run that succeeds up to the node it stops at
(`resolveAll_stops`). The order has the producers of this node before it, so they are resolved, and
each of them has one output (`Inferable.inputTypes`).
-/
namespace OpGraph

namespace Store

/-- The failures that a node reports of the types of its producers. -/
inductive Refuses (store : Store) (id : Nat) : Failure → Prop
  | violation (violation : Violation) :
    Refuses store id (.invalid (store.operator id).kind (some (store.name id)) violation)
  | digits (inputs : List TensorType) (typed : store.inputTypes id = .ok inputs)
      (many : (store.operator id).OverlongWindow inputs) : Refuses store id .numberTooLong

variable {store : Store} {id : Nat}

theorem refuses_of_computeTypes (integral : (store.operator id).IsIntegral)
    (short : (store.operator id).isShort = true) {inputs : List TensorType}
    (typed : store.inputTypes id = .ok inputs)
    (areShort : inputs.all TensorType.isShort = true) {failure : Failure}
    (failed : store.computeTypes id = .error failure) : store.Refuses id failure := by
  rw [computeTypes, typed, Outcome.ok_bind] at failed
  cases inferred : (store.operator id).infer inputs with
  | ok types =>
    rw [inferred] at failed
    cases failed
  | error reported =>
    rw [inferred] at failed
    cases failed
    have outcome := (Operator.IsLibrary.reportsFirst (.inl integral) inputs).outcome
    rw [inferred] at outcome
    rcases outcome with ⟨⟨_, ⟨⟩⟩, -⟩ | ⟨violation, same, -⟩ | ⟨same, stage, long, -⟩
    · cases same
      exact .violation violation
    · cases same
      exact .digits inputs typed (long.window_of_short short areShort)

end Store

namespace Graph

open Store

/-- What inference relies on, whichever nodes are resolved already. -/
structure Inferable (store : Store) (graph : Graph) : Prop extends graph.IsSelfContained store where
  integral : ∀ id ∈ graph.nodes, store.isParameter id = false → (store.operator id).IsIntegral
  parameters : ∀ id ∈ graph.nodes, store.isParameter id = true → store.isResolved id = true
  single : ∀ id ∈ graph.nodes, ∀ types, (store.node id).types = some types →
    ∃ type, types = [type]
  operators : ∀ id ∈ graph.nodes, (store.operator id).isShort = true
  areShort : ∀ id ∈ graph.nodes, ∀ types, (store.node id).types = some types →
    types.all TensorType.isShort = true

/-- Inference came to a node that is not resolved though all that it reads is. -/
structure StoppedAt (store : Store) (graph : Graph) (id : Nat) : Prop where
  member : id ∈ graph.nodes
  unresolved : store.isResolved id = false
  ready : ∀ p ∈ store.producers id, store.isResolved p = true

variable {store : Store} {graph : Graph}

/-- Only parameters have types, and theirs are those declared. -/
theorem WellFormed.declared (wellFormed : graph.WellFormed store) {id : Nat}
    (member : id ∈ graph.nodes) {types : List TensorType}
    (typed : (store.node id).types = some types) :
    ∃ type, store.operator id = .parameter type ∧ types = [type] := by
  rw [wellFormed.fresh id member] at typed
  cases declared : store.operator id with
  | parameter type =>
    rw [declared] at typed
    cases typed
    exact ⟨type, rfl, rfl⟩
  | _ =>
    rw [declared] at typed
    cases typed

theorem WellFormed.inferable (wellFormed : graph.WellFormed store) : graph.Inferable store where
  toIsSelfContained := wellFormed.toIsSelfContained
  integral := wellFormed.integral
  parameters id member parameter := by
    rw [wellFormed.isResolved_eq_isParameter member, parameter]
  single id member types typed := by
    obtain ⟨type, -, rfl⟩ := wellFormed.declared member typed
    exact ⟨type, rfl⟩
  operators := wellFormed.short
  areShort id member types typed := by
    obtain ⟨type, declared, rfl⟩ := wellFormed.declared member typed
    have short := wellFormed.short id member
    rw [declared] at short
    rw [List.all_cons, List.all_nil, Bool.and_true]
    exact short

namespace Inferable

theorem step (inferable : graph.Inferable store) {later : Store} (step : Step store later) :
    graph.Inferable later := by
  have becomes := fun id member => step.keeps.becomes (inferable.found id member)
  have parameters : ∀ id ∈ graph.nodes, later.isParameter id = store.isParameter id :=
    fun id member => step.keeps.isParameter (inferable.found id member)
  refine ⟨inferable.toIsSelfContained.keeps step.keeps, ?_, ?_, ?_, ?_, ?_⟩
  · intro id member operation
    rw [parameters id member] at operation
    rw [Store.operator, (becomes id member).2.operator]
    exact inferable.integral id member operation
  · intro id member parameter
    rw [parameters id member] at parameter
    exact step.keeps.isResolved (inferable.parameters id member parameter)
  -- New types come only from the operator of the resolved node, which infers one.
  · intro id member types typed
    rcases step.types (inferable.found id member) typed with known | resolves
    · exact inferable.single id member types known
    · obtain ⟨inputs, -, inferred⟩ := computeTypes_eq_ok.mp resolves.computed
      exact (inferable.integral id member resolves.operation).infer_single inferred
  · intro id member
    rw [Store.operator, (becomes id member).2.operator]
    exact inferable.operators id member
  · intro id member types typed
    rcases step.types (inferable.found id member) typed with known | resolves
    · exact inferable.areShort id member types known
    · obtain ⟨inputs, -, inferred⟩ := computeTypes_eq_ok.mp resolves.computed
      have integral := inferable.integral id member resolves.operation
      exact Operator.areShort_of_infer integral.isGeneric resolves.operation inferred

theorem evolves (inferable : graph.Inferable store) {later : Store}
    (evolves : store.Evolves later) : graph.Inferable later := by
  have kept : ∀ store later, Step store later → graph.Inferable store → graph.Inferable later :=
    fun _ _ step held => held.step step
  exact evolves.preserves kept inferable

/-- A resolved member has its one output type. -/
theorem outputType (inferable : graph.Inferable store) {id : Nat} (member : id ∈ graph.nodes)
    (resolved : store.isResolved id = true) :
    ∃ type, store.outputType id = .ok type ∧ type.isShort = true := by
  obtain ⟨types, typed⟩ := Option.isSome_iff_exists.mp resolved
  obtain ⟨type, rfl⟩ := inferable.single id member types typed
  refine ⟨type, ?_, ?_⟩
  · rw [Store.outputType, Store.outputTypes, typed]
    rfl
  · simpa using inferable.areShort id member _ typed

/-- Members that are resolved have types that can be written. -/
theorem outputTypes (inferable : graph.Inferable store) {ids : List Nat}
    (members : ∀ id ∈ ids, id ∈ graph.nodes)
    (resolved : ∀ id ∈ ids, store.isResolved id = true) :
    ∃ types, List.Forall₂ (fun id type => store.outputType id = .ok type) ids types ∧
      types.all TensorType.isShort = true := by
  obtain ⟨types, outputs, short⟩ := Outcome.exists_forall₂
    (fun id listed => inferable.outputType (members id listed) (resolved id listed))
  refine ⟨types, outputs, List.all_eq_true.mpr fun type among => ?_⟩
  obtain ⟨_, -, short⟩ := Outcome.forall₂_mem_left short.flip type among
  exact short

/-- A member whose producers are resolved can be given their types. -/
theorem inputTypes (inferable : graph.Inferable store) {id : Nat} (member : id ∈ graph.nodes)
    (ready : ∀ p ∈ store.producers id, store.isResolved p = true) :
    ∃ inputs, store.inputTypes id = .ok inputs ∧ inputs.all TensorType.isShort = true := by
  obtain ⟨inputs, outputs, short⟩ := inferable.outputTypes (inferable.closed id member) ready
  exact ⟨inputs, inputTypes_eq_ok.mpr ⟨ready, outputs⟩, short⟩

/-- A node that cannot be resolved though its producers are refuses their types, and stays as it
is. -/
theorem refuses (inferable : graph.Inferable store) {id : Nat} (stopped : graph.StoppedAt store id)
    {left : Store} {failure : Failure} (failed : store.infer id = (left, .error failure)) :
    left = store ∧ store.Refuses id failure := by
  have operation : store.isParameter id = false := by
    cases parameter : store.isParameter id with
    | false => rfl
    | true =>
      have resolved := inferable.parameters id stopped.member parameter
      rw [stopped.unresolved] at resolved
      cases resolved
  have integral := inferable.integral id stopped.member operation
  obtain ⟨inputs, typed, areShort⟩ := inferable.inputTypes stopped.member stopped.ready
  -- Nothing but its own types can fail, since those of its producers are known.
  cases computed : store.computeTypes id with
  | ok types =>
    have resolves : store.Resolves id types := ⟨operation, stopped.unresolved, computed⟩
    obtain ⟨inputs', -, inferred⟩ := computeTypes_eq_ok.mp computed
    have written := Operator.areShort_of_infer integral.isGeneric operation inferred
    rw [resolves.infer, report_eq_ok.mpr ⟨written, rfl⟩] at failed
    cases failed
  | error refused =>
    rw [Store.infer, operation, stopped.unresolved, computed] at failed
    cases failed
    exact ⟨rfl, refuses_of_computeTypes integral (inferable.operators id stopped.member) typed
      areShort computed⟩

end Inferable

/-- A run that fails is one that succeeds up to the node it stops at. -/
theorem resolveAll_stops (ids : List Nat) (store : Store) (failure : Failure)
    (failed : (resolveAll store ids).2 = .error failure) :
    ∃ front id back, ids = front ++ id :: back ∧ (resolveAll store front).2 = .ok () ∧
      (resolveAll store front).1.isResolved id = false ∧
      (resolveAll store front).1.infer id = ((resolveAll store ids).1, .error failure) := by
  induction ids generalizing store with
  | nil => cases failed
  | cons first ids ih =>
    -- A node that is resolved already is passed over, and one that is resolved now is part of the
    -- run that succeeded.
    rw [resolveAll] at failed ⊢
    by_cases done : store.isResolved first = true
    · rw [if_pos done] at failed ⊢
      obtain ⟨front, id, back, rfl, ran, unresolved, refused⟩ := ih store failed
      have run : resolveAll store (first :: front) = resolveAll store front := by
        rw [resolveAll, if_pos done]
      exact ⟨first :: front, id, back, rfl, by rw [run, ran], by rw [run, unresolved],
        by rw [run, refused]⟩
    · rw [if_neg done] at failed ⊢
      rcases inferred : store.infer first with ⟨next, refused | types⟩
      · simp only [inferred] at failed ⊢
        cases failed
        have unresolved : store.isResolved first = false := by simpa using done
        exact ⟨[], first, ids, rfl, rfl, unresolved, inferred⟩
      · simp only [inferred] at failed ⊢
        obtain ⟨front, id, back, rfl, ran, unresolved, refused⟩ := ih next failed
        have run : resolveAll store (first :: front) = resolveAll next front := by
          rw [resolveAll, if_neg done, inferred]
        exact ⟨first :: front, id, back, rfl, by rw [run, ran], by rw [run, unresolved],
          by rw [run, refused]⟩

namespace Inferable

/-- Inference that fails stops at a node that refuses what its producers give it. -/
theorem infer_error (inferable : graph.Inferable store) {failure : Failure}
    (failed : (graph.infer store).2 = .error failure) :
    ∃ id, graph.StoppedAt (graph.infer store).1 id ∧ (graph.infer store).1.Refuses id failure := by
  obtain ⟨order, sorted, isOrder⟩ := isOrder_of_descending inferable.distinct inferable.descending
  rw [infer_store store graph order sorted]
  have after := inferable.evolves (evolves_resolveAll store order)
  cases ran : (resolveAll store order).2 with
  | ok =>
    -- All nodes are resolved, so the outputs have types.
    obtain ⟨types, outputs, short⟩ := after.outputTypes inferable.outputs fun id output =>
      have member := inferable.outputs id output
      resolveAll_resolves order store ran id ((isOrder.mem_iff id).mpr member)
        (inferable.found id member)
    have succeeded := (infer_succeeds_iff store graph types).mpr
      ⟨order, sorted, ran, (Outcome.mapM_eq_ok_iff _ _ _).mpr outputs, short⟩
    rw [failed] at succeeded
    cases succeeded
  | error stopped =>
    have same : stopped = failure := by
      rw [infer_eq store graph order sorted, ran] at failed
      exact Except.error.inj failed
    subst same
    obtain ⟨front, id, back, rfl, before, unresolved, refused⟩ :=
      resolveAll_stops order store stopped ran
    -- What the node reads comes before it in the order, so the run up to it resolved that.
    have upTo := inferable.evolves (evolves_resolveAll store front)
    have member : id ∈ graph.nodes := (isOrder.mem_iff id).mp (by simp)
    have producers := (resolveAll_advances store front).producers id
    have stoppedAt : graph.StoppedAt (resolveAll store front).1 id := by
      refine ⟨member, unresolved, fun p read => ?_⟩
      rw [producers] at read
      have among := inferable.closed id member p read
      have earlier := isOrder.producersFirst front id back rfl p read among
      exact resolveAll_resolves front store before p earlier (inferable.found p among)
    obtain ⟨left, refuses⟩ := upTo.refuses stoppedAt refused
    rw [left]
    exact ⟨id, stoppedAt, refuses⟩

/-- Inference that succeeds resolves all nodes. -/
theorem infer_ok (inferable : graph.Inferable store) {types : List TensorType}
    (succeeded : (graph.infer store).2 = .ok types) :
    (∀ id ∈ graph.nodes, (graph.infer store).1.isResolved id = true) ∧
      graph.outputTypes (graph.infer store).1 = .ok types :=
  ⟨infer_resolves store graph types succeeded inferable.found inferable.descending,
    outputTypes_infer store graph types succeeded⟩

end Inferable

end Graph

end OpGraph
