import OpGraph.Graph.Evaluation
import OpGraph.Proofs.Graph.WellFormed

/-!
# Runs of evaluation

What is to be known of the values of a self-contained graph is left open here: any relation between
nodes and arrays will do (`means`), as long as it holds of the inputs and every operation hands it
on from its operands to its value. Then a run either computes a related value for every node, or
stops at an operation which fails on related operands, with the failure of this operation
(`evaluate_run`). So no run ends for want of a value in the table.

Proof strategy: the nodes are worked off in an order in which producers come first. The table
holds related values for all parameters and for the nodes done so far (`Holds`), and as names are
distinct a new value covers no other.
-/
namespace OpGraph

variable [Host]

/-- The value of a node from those of its producers: its first output. -/
def Store.valueFrom (store : Store) (id : Nat) (operands : List Tensor) : Except Failure Tensor := do
  match ← store.evaluate id operands with
  | value :: _ => return value
  | [] => throw .positionOutOfRange

namespace Graph

/-- The table has related values of all parameters and of the nodes done so far. -/
def Holds (store : Store) (graph : Graph) (means : Nat → Tensor → Prop) (table : ValueTable)
    (done : List Nat) : Prop :=
  ∀ id ∈ graph.nodes, store.isParameter id = true ∨ id ∈ done →
    ∃ value, table.lookup (store.name id) = some value ∧ means id value

/-- The operations of the graph hand the relation on from their operands to their values. -/
def Respects (store : Store) (graph : Graph) (means : Nat → Tensor → Prop) : Prop :=
  ∀ id ∈ graph.nodes, store.isParameter id = false → ∀ operands,
    List.Forall₂ means (store.producers id) operands → ∀ value,
    store.valueFrom id operands = .ok value → means id value

/-- An operation computes a value from related operands. -/
def Succeeds (store : Store) (means : Nat → Tensor → Prop) (id : Nat) : Prop :=
  ∃ operands value, List.Forall₂ means (store.producers id) operands ∧
    store.valueFrom id operands = .ok value

/-- An operation of the graph fails on related operands. -/
def FailsAt (store : Store) (graph : Graph) (means : Nat → Tensor → Prop) (failure : Failure) :
    Prop :=
  ∃ id ∈ graph.nodes, store.isParameter id = false ∧ ∃ operands,
    List.Forall₂ means (store.producers id) operands ∧
    store.valueFrom id operands = .error failure

/-- The nodes still to be done: members, each of which comes after what it reads. -/
def Ready (store : Store) (graph : Graph) (done ids : List Nat) : Prop :=
  ∀ front id back, ids = front ++ id :: back →
    id ∈ graph.nodes ∧ ∀ p ∈ store.producers id, p ∈ done ++ front

variable {store : Store} {graph : Graph} {means : Nat → Tensor → Prop} {table : ValueTable}
  {done : List Nat}

omit [Host] in
theorem lookUp_eq_ok {name : String} {value : Tensor} :
    lookUp table name = .ok value ↔ table.lookup name = some value := by
  unfold lookUp
  cases table.lookup name <;> simp

omit [Host] in
theorem lookUp_eq_error {name : String} {failure : Failure} :
    lookUp table name = .error failure ↔
      table.lookup name = none ∧ failure = .unknownKey := by
  unfold lookUp
  cases table.lookup name <;> simp [eq_comm]

section Nodes

variable {id : Nat} (holds : Holds store graph means table done)

include holds

omit [Host] in
/-- A parameter has its value before its turn. -/
theorem Holds.parameter (parameter : store.isParameter id = true) :
    Holds store graph means table (done ++ [id]) := by
  rintro other among (held | held)
  · exact holds other among (.inl held)
  · rcases List.mem_append.mp held with before | last
    · exact holds other among (.inr before)
    · obtain rfl := List.mem_singleton.mp last
      exact holds other among (.inl parameter)

variable (selfContained : graph.IsSelfContained store) (member : id ∈ graph.nodes)

include selfContained member

omit [Host] in
/-- The name of a new value is that of no other node. -/
theorem Holds.push {value : Tensor} (related : means id value) :
    Holds store graph means ((store.name id, value) :: table) (done ++ [id]) := by
  intro other among held
  by_cases same : store.name other = store.name id
  · -- Under this name there is no other node.
    obtain rfl := selfContained.eq_of_name among member same
    exact ⟨value, by simp, related⟩
  · have different : other ≠ id := fun equal => same (by rw [equal])
    have before : store.isParameter other = true ∨ other ∈ done := by
      simpa [different] using held
    obtain ⟨value', found, related'⟩ := holds other among before
    refine ⟨value', ?_, related'⟩
    rw [List.lookup_cons, beq_false_of_ne same]
    exact found

/-- What a node reads is in the table, so its value is that of related operands. -/
theorem Holds.nodeValue (ready : ∀ p ∈ store.producers id, p ∈ done) :
    ∃ operands, List.Forall₂ means (store.producers id) operands ∧
      nodeValue store table id = store.valueFrom id operands := by
  have each : ∀ p ∈ store.producers id,
      ∃ value, lookUp table (store.name p) = .ok value ∧ means p value := by
    intro p read
    obtain ⟨value, found, related⟩ :=
      holds p (selfContained.closed id member p read) (.inr (ready p read))
    exact ⟨value, lookUp_eq_ok.mpr found, related⟩
  obtain ⟨operands, found, related⟩ := Outcome.exists_forall₂ each
  refine ⟨operands, related, ?_⟩
  rw [Graph.nodeValue, (Outcome.mapM_eq_ok_iff _ _ _).mpr found, Outcome.ok_bind]
  rfl

end Nodes

variable (selfContained : graph.IsSelfContained store)

include selfContained

theorem computeAll_run (respects : Respects store graph means) (ids : List Nat)
    (holds : Holds store graph means table done) (ready : Ready store graph done ids) :
    (∃ final, computeAll store table ids = .ok final ∧
        Holds store graph means final (done ++ ids) ∧
        ∀ id ∈ ids, store.isParameter id = false → Succeeds store means id) ∨
      ∃ failure, computeAll store table ids = .error failure ∧
        FailsAt store graph means failure := by
  induction ids generalizing done table with
  | nil => exact .inl ⟨table, rfl, by rwa [List.append_nil], by simp⟩
  | cons id ids ih =>
    obtain ⟨member, read⟩ := ready [] id ids rfl
    have later : Ready store graph (done ++ [id]) ids := by
      rintro front other back rfl
      simpa using ready (id :: front) other back rfl
    cases operation : store.isParameter id with
    | true =>
      -- A parameter is passed over, as its value is in the table.
      obtain ⟨value, found, -⟩ := holds id member (.inl operation)
      have step : computeAll store table (id :: ids) = computeAll store table ids := by
        simp only [computeAll, operation, found, Option.isSome_some, if_true]
      rw [step]
      refine (ih (holds.parameter operation) later).imp_left ?_
      rintro ⟨final, ran, holds', all⟩
      refine ⟨final, ran, by simpa using holds', fun other among isOperation => ?_⟩
      rcases List.mem_cons.mp among with rfl | among
      · rw [operation] at isOperation
        cases isOperation
      · exact all other among isOperation
    | false =>
      -- An operation finds its operands; its value enters the table, or its failure ends the run.
      obtain ⟨operands, related, valued⟩ :=
        holds.nodeValue selfContained member (by simpa using read)
      cases computed : store.valueFrom id operands with
      | error failure =>
        refine .inr ⟨failure, ?_, id, member, operation, operands, related, computed⟩
        simp only [computeAll, operation, Bool.false_eq_true, if_false, valued, computed,
          Outcome.error_bind]
      | ok value =>
        have step : computeAll store table (id :: ids) =
            computeAll store ((store.name id, value) :: table) ids := by
          simp only [computeAll, operation, Bool.false_eq_true, if_false, valued, computed,
            Outcome.ok_bind]
        have pushed := holds.push selfContained member
          (respects id member operation operands related value computed)
        rw [step]
        refine (ih pushed later).imp_left ?_
        rintro ⟨final, ran, holds', all⟩
        refine ⟨final, ran, by simpa using holds', fun other among isOperation => ?_⟩
        rcases List.mem_cons.mp among with rfl | among
        · exact ⟨operands, value, related, computed⟩
        · exact all other among isOperation

variable {arrays : List Tensor} (bound : List.Forall₂ means graph.inputs arrays)

include bound

omit [Host] in
/-- The inputs are all that is needed to begin with. -/
theorem bindInputs_holds : Holds store graph means (graph.bindInputs store arrays) [] := by
  have entries : graph.bindInputs store arrays =
      ((graph.inputs.zip arrays).map (Prod.map store.name id)).reverse := by
    rw [bindInputs, List.zip_map_left]
  rintro id member (parameter | held)
  · have input := (selfContained.inputs id).mpr ⟨member, parameter⟩
    obtain ⟨i, below, rfl⟩ := List.getElem_of_mem input
    have present : ((graph.bindInputs store arrays).lookup
        (store.name graph.inputs[i])).isSome = true := by
      rw [List.lookup_isSome_iff, entries]
      have paired : i < (graph.inputs.zip arrays).length := by
        rw [List.length_zip, ← bound.length_eq]
        omega
      refine ⟨_, List.mem_reverse.mpr (List.mem_map_of_mem (List.getElem_mem paired)), ?_⟩
      simp
    obtain ⟨value, found⟩ := Option.isSome_iff_exists.mp present
    refine ⟨value, found, ?_⟩
    -- The entry found is that of an input of the same name, so of the same input.
    obtain ⟨before, after, split, -⟩ := List.lookup_eq_some_iff.mp found
    have among : (store.name graph.inputs[i], value) ∈
        (graph.inputs.zip arrays).map (Prod.map store.name id) := by
      rw [← List.mem_reverse, ← entries, split]
      simp
    obtain ⟨⟨other, value'⟩, paired, same⟩ := List.mem_map.mp among
    simp only [Prod.map, id_eq, Prod.mk.injEq] at same
    obtain ⟨sameName, rfl⟩ := same
    have member' := ((selfContained.inputs other).mp (List.of_mem_zip paired).1).1
    obtain rfl := selfContained.eq_of_name member' member sameName
    exact List.forall₂_zip bound paired
  · cases held

/-- The table gets related values of all nodes, or its computation ends with the failure of an
operation on related operands. -/
theorem table_run (respects : Respects store graph means) :
    ∃ order, graph.topological store = .ok order ∧
      ((∃ table, computeAll store (graph.bindInputs store arrays) order = .ok table ∧
          (∀ id ∈ graph.nodes, ∃ value, lookUp table (store.name id) = .ok value ∧ means id value) ∧
          ∀ id ∈ graph.nodes, store.isParameter id = false → Succeeds store means id) ∨
        ∃ failure, computeAll store (graph.bindInputs store arrays) order = .error failure ∧
          FailsAt store graph means failure) := by
  obtain ⟨order, sorted, isOrder⟩ :=
    isOrder_of_descending selfContained.distinct selfContained.descending
  -- All a node reads stands before it in a topological order.
  have ready : Ready store graph [] order := by
    intro front id back split
    have member : id ∈ graph.nodes := (isOrder.mem_iff id).mp (by simp [split])
    refine ⟨member, fun p read => ?_⟩
    exact isOrder.producersFirst front id back split p read (selfContained.closed id member p read)
  refine ⟨order, sorted, ?_⟩
  refine (computeAll_run selfContained respects order (bindInputs_holds selfContained bound)
    ready).imp_left ?_
  rintro ⟨table, ran, holds, all⟩
  refine ⟨table, ran, fun id member => ?_, fun id member => ?_⟩
  · obtain ⟨value, found, related⟩ :=
      holds id member (.inr (by simpa using (isOrder.mem_iff id).mpr member))
    exact ⟨value, lookUp_eq_ok.mpr found, related⟩
  · exact all id ((isOrder.mem_iff id).mpr member)

omit selfContained bound in
/-- Evaluation on the right number of arrays reads the outputs off the table. -/
theorem evaluate_eq {order : List Nat} (counted : arrays.length = graph.inputs.length)
    (sorted : graph.topological store = .ok order) :
    graph.evaluate store arrays = (do
      let table ← computeAll store (graph.bindInputs store arrays) order
      graph.outputs.mapM fun id => lookUp table (store.name id)) := by
  have same : (arrays.length != graph.inputs.length) = false := by
    rw [counted]
    exact bne_self_eq_false _
  simp only [evaluate, same, Bool.false_eq_true, if_false, sorted, Outcome.ok_bind]

/-- Evaluation gives related values of all nodes, or it ends with the failure of an operation on
related operands. -/
theorem evaluate_run (respects : Respects store graph means) :
    (∃ order table results, graph.topological store = .ok order ∧
        computeAll store (graph.bindInputs store arrays) order = .ok table ∧
        graph.evaluate store arrays = .ok results ∧
        List.Forall₂ means graph.outputs results ∧
        (∀ id ∈ graph.nodes, ∃ value, lookUp table (store.name id) = .ok value ∧ means id value) ∧
        ∀ id ∈ graph.nodes, store.isParameter id = false → Succeeds store means id) ∨
      ∃ failure, graph.evaluate store arrays = .error failure ∧
        FailsAt store graph means failure := by
  obtain ⟨order, sorted, run⟩ := table_run selfContained bound respects
  rw [evaluate_eq bound.length_eq.symm sorted]
  rcases run with ⟨table, ran, valued, all⟩ | ⟨failure, ran, failing⟩
  · left
    obtain ⟨results, found, related⟩ :=
      Outcome.exists_forall₂ fun id member => valued id (selfContained.outputs id member)
    refine ⟨order, table, results, sorted, ran, ?_, related, valued, all⟩
    rw [ran, Outcome.ok_bind]
    exact (Outcome.mapM_eq_ok_iff _ _ _).mpr found
  · right
    refine ⟨failure, ?_, failing⟩
    rw [ran, Outcome.error_bind]

/-! ### The names in the table -/

omit selfContained bound

omit [Host] in
theorem lookup_bindInputs {name : String} {value : Tensor}
    (found : (graph.bindInputs store arrays).lookup name = some value) :
    ∃ id ∈ graph.inputs, store.name id = name := by
  obtain ⟨before, after, split, -⟩ := List.lookup_eq_some_iff.mp found
  have among : (name, value) ∈ (graph.inputs.map store.name).zip arrays := by
    rw [← List.mem_reverse, ← bindInputs, split]
    simp
  simpa using (List.of_mem_zip among).1

/-- A run adds values under the names of its nodes only. -/
theorem lookup_computeAll {ids : List Nat} {final : ValueTable} {name : String} {value : Tensor}
    (ran : computeAll store table ids = .ok final) (found : final.lookup name = some value) :
    (∃ value, table.lookup name = some value) ∨ ∃ id ∈ ids, store.name id = name := by
  induction ids generalizing table with
  | nil =>
    cases ran
    exact .inl ⟨value, found⟩
  | cons id ids ih =>
    rw [computeAll] at ran
    split at ran
    · split at ran
      · refine (ih ran).imp_right ?_
        rintro ⟨other, later, same⟩
        exact ⟨other, List.mem_cons_of_mem id later, same⟩
      · cases ran
    · obtain ⟨computed, -, ran⟩ := (Outcome.bind_eq_ok _ _ _).mp ran
      rcases ih ran with ⟨before, held⟩ | ⟨other, later, same⟩
      · by_cases own : name = store.name id
        · exact .inr ⟨id, List.mem_cons_self, own.symm⟩
        · rw [List.lookup_cons, beq_false_of_ne own] at held
          exact .inl ⟨before, held⟩
      · exact .inr ⟨other, List.mem_cons_of_mem id later, same⟩

end Graph

end OpGraph
