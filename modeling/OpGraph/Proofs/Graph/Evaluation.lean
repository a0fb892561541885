import OpGraph.Proofs.Graph.Running

/-!
# Evaluation of inferred graphs

On arrays of the declared types, a graph whose types were inferred computes for each node an
array of the type that was inferred for the node. It fails only at an obstructed node: at one
that writes to a slice without axes, which is a single number, or that would have to make arrays
which cannot be held (`evaluate_ok_iff`, `evaluate_ok_typed`).
-/
namespace OpGraph

variable [Host]

namespace Store

/-- The value of a node has the type inferred for it. Only a slice can be a single number. -/
structure Computes (store : Store) (id : Nat) (value : Tensor) : Prop where
  type : store.outputType id = .ok value.type
  known : value.etype ≠ .dynamic
  writable : value.writable = !((store.operator id).isSlice && value.shape.isEmpty)

/-- What keeps a node with inferred types from being computed. -/
inductive Obstructed (store : Store) (id : Nat) : Prop
  | number (target : Nat) (rest : List Nat) (etype : ElementType)
    (writes : (store.operator id).writes = true) (reads : store.producers id = target :: rest)
    (slice : (store.operator target).isSlice = true)
    (scalar : store.outputType target = .ok ⟨.ofLengths [], etype⟩)
  | oversized (inputs : List TensorType) (typed : store.inputTypes id = .ok inputs)
    (oversized : (store.operator id).Oversized inputs)

variable {store : Store} {id : Nat}

theorem Obstructed.operation (obstructed : store.Obstructed id) : store.isParameter id = false := by
  rw [isParameter]
  cases obstructed with
  | number _ _ _ writes =>
    generalize store.operator id = operator at writes ⊢
    cases operator <;> first | rfl | cases writes
  | oversized _ _ oversized =>
    generalize store.operator id = operator at oversized ⊢
    cases oversized <;> rfl

omit [Host] in
/-- The values of the producers have the types that the operator is given. -/
theorem inputTypes_of_computes {inputs : List TensorType} {operands : List Tensor}
    (typed : store.inputTypes id = .ok inputs)
    (computed : List.Forall₂ store.Computes (store.producers id) operands) :
    inputs = operands.map Tensor.type := by
  have outputs := (inputTypes_eq_ok.mp typed).2
  clear typed
  generalize store.producers id = producers at outputs computed
  induction computed generalizing inputs with
  | nil =>
    cases outputs
    rfl
  | cons head _ ih =>
    cases outputs with
    | cons output outputs =>
      rw [head.type, Except.ok.injEq] at output
      rw [List.map_cons, output, ih outputs]

section Operands

variable {operands : List Tensor}
  (computed : List.Forall₂ store.Computes (store.producers id) operands)

include computed

theorem evaluate_eq : store.evaluate id operands = (store.operator id).evaluate operands := by
  rw [evaluate, if_pos computed.length_eq.symm]

/-- A node that is not obstructed computes a value of its type from such values. -/
theorem evaluate_of_clear (integral : (store.operator id).IsIntegral) {types : List TensorType}
    (typed : store.outputTypes id = .ok types) (resolved : store.computeTypes id = .ok types)
    (clear : ¬store.Obstructed id) :
    ∃ value, store.evaluate id operands = .ok [value] ∧ store.Computes id value := by
  obtain ⟨inputs, given, accepted⟩ := computeTypes_eq_ok.mp resolved
  obtain rfl := inputTypes_of_computes given computed
  have known : ∀ operand ∈ operands, operand.etype ≠ .dynamic := by
    intro operand member
    obtain ⟨_, _, computes⟩ := Outcome.forall₂_mem_left computed.flip operand member
    exact computes.known
  -- Only a number taken out of an array cannot be written, and writing to one is an obstacle.
  have writable : (store.operator id).writes = true →
      ∀ target ∈ operands.head?, target.writable = true := by
    intro writes value first
    cases reads : store.producers id with
    | nil =>
      rw [reads] at computed
      cases computed
      cases first
    | cons target rest =>
      rw [reads] at computed
      cases computed with
      | cons head _ =>
        cases first
        rw [head.writable, Bool.not_eq_true', Bool.and_eq_false_imp]
        intro slice
        by_contra scalar
        have shape : value.shape = [] := by simpa using scalar
        refine clear (.number target rest value.etype writes reads slice ?_)
        rw [head.type, Tensor.type, shape]
  have held : ¬(store.operator id).Oversized (operands.map Tensor.type) :=
    fun oversized => clear (.oversized _ given oversized)
  obtain ⟨value, evaluated, agrees⟩ :=
    Operator.evaluate_of_infer integral known accepted writable held
  refine ⟨value, (evaluate_eq computed).trans evaluated, ?_, agrees.known, agrees.writable⟩
  rw [outputType, typed, Outcome.ok_bind, agrees.types]
  rfl

theorem evaluate_of_obstructed (obstructed : store.Obstructed id) :
    ∃ failure, store.evaluate id operands = .error failure := by
  rw [evaluate_eq computed]
  cases obstructed with
  | number target rest etype writes reads slice scalar =>
    rw [reads] at computed
    cases computed with
    | @cons _ value _ _ head _ =>
      have shape : value.shape = [] := by
        have same := head.type
        rw [scalar, Except.ok.injEq] at same
        exact (value.type_eq _ _ same.symm).1
      have number : value.writable = false := by
        rw [head.writable, slice, shape]
        rfl
      exact Operator.evaluate_of_not_writable writes value number _
  | oversized inputs typed oversized =>
    obtain rfl := inputTypes_of_computes typed computed
    exact Operator.evaluate_of_oversized oversized

end Operands

end Store

namespace Graph

open Store

variable {store : Store} {graph : Graph} (inferred : graph.IsInferred store)

include inferred

/-- An operation hands on from its operands to its value that types are those inferred. -/
private theorem respects_computes : Respects store graph store.Computes := by
  intro id member operation operands computed value valued
  obtain ⟨types, typed, resolved⟩ := inferred.computed id member operation
  by_cases obstructed : store.Obstructed id
  · obtain ⟨failure, refused⟩ := evaluate_of_obstructed computed obstructed
    rw [valueFrom, refused] at valued
    cases valued
  · obtain ⟨value', evaluated, computes⟩ :=
      evaluate_of_clear computed (inferred.integral id member operation) typed resolved obstructed
    rw [valueFrom, evaluated] at valued
    cases valued
    exact computes

omit inferred in
private theorem clear_of_succeeds {id : Nat} (succeeds : Succeeds store store.Computes id) :
    ¬store.Obstructed id := by
  intro obstructed
  obtain ⟨operands, value, computed, valued⟩ := succeeds
  obtain ⟨failure, refused⟩ := evaluate_of_obstructed computed obstructed
  rw [valueFrom, refused] at valued
  cases valued

private theorem obstructed_of_failsAt {failure : Failure}
    (failing : FailsAt store graph store.Computes failure) :
    ∃ id ∈ graph.nodes, store.Obstructed id := by
  obtain ⟨id, member, operation, operands, computed, failed⟩ := failing
  refine ⟨id, member, ?_⟩
  by_contra clear
  obtain ⟨types, typed, resolved⟩ := inferred.computed id member operation
  obtain ⟨value, evaluated, -⟩ :=
    evaluate_of_clear computed (inferred.integral id member operation) typed resolved clear
  rw [valueFrom, evaluated] at failed
  cases failed

variable {arrays : List Tensor} (bound : List.Forall₂ store.Computes graph.inputs arrays)

include bound

/-- The values of all nodes, in the table that evaluation leaves, have the types inferred. -/
theorem evaluate_ok_typed (clear : ∀ id ∈ graph.nodes, ¬store.Obstructed id) :
    ∃ order table results, graph.topological store = .ok order ∧
      computeAll store (graph.bindInputs store arrays) order = .ok table ∧
      graph.evaluate store arrays = .ok results ∧
      (∀ id ∈ graph.nodes, ∃ value, lookUp table (store.name id) = .ok value ∧
        store.outputType id = .ok value.type) ∧
      graph.outputTypes store = .ok (results.map Tensor.type) := by
  rcases evaluate_run inferred.toIsSelfContained bound (respects_computes inferred) with
    ⟨order, table, results, sorted, ran, evaluated, outputs, valued, -⟩ | ⟨failure, -, failing⟩
  · refine ⟨order, table, results, sorted, ran, evaluated, fun id member => ?_, ?_⟩
    · obtain ⟨value, found, computes⟩ := valued id member
      exact ⟨value, found, computes.type⟩
    · refine (Outcome.mapM_eq_ok_iff _ _ _).mpr (List.forall₂_map_right_iff.mpr ?_)
      exact outputs.imp fun _ _ computes => computes.type
  · obtain ⟨id, member, obstructed⟩ := obstructed_of_failsAt inferred failing
    exact absurd obstructed (clear id member)

/-- Evaluation succeeds just when no node is obstructed. -/
theorem evaluate_ok_iff :
    (∃ results, graph.evaluate store arrays = .ok results) ↔
      ∀ id ∈ graph.nodes, ¬store.Obstructed id := by
  constructor
  · rintro ⟨results, succeeded⟩ id member obstructed
    rcases evaluate_run inferred.toIsSelfContained bound (respects_computes inferred) with
      ⟨_, _, _, -, -, -, -, -, all⟩ | ⟨failure, failed, -⟩
    · exact clear_of_succeeds (all id member obstructed.operation) obstructed
    · rw [failed] at succeeded
      cases succeeded
  · intro clear
    obtain ⟨_, _, results, -, -, succeeded, -⟩ := evaluate_ok_typed inferred bound clear
    exact ⟨results, succeeded⟩

end Graph

end OpGraph
