import OpGraph.Proofs.Graph.Running

/-!
# What graphs mean

The value of a node is defined by recursion over what nodes read, with no order, no table and no
names: an input is given, and an operation is the first output of its operator on the values of its
producers (`Denotes`). Evaluation of a self-contained graph succeeds just when every node has a
value, and gives those of the outputs; it fails only with an operation that fails on the values of
its producers (`evaluate_denotes`).
-/
namespace OpGraph.Graph

variable [Host]

inductive Denotes (store : Store) (graph : Graph) (arrays : List Tensor) : Nat → Tensor → Prop
  | input (j : Nat) {id : Nat} {array : Tensor} (input : graph.inputs[j]? = some id)
    (given : arrays[j]? = some array) : Denotes store graph arrays id array
  | operation {id : Nat} {operands rest : List Tensor} {value : Tensor}
    (operation : store.isParameter id = false)
    (counted : (store.producers id).length = operands.length)
    (reads : ∀ p operand, (p, operand) ∈ (store.producers id).zip operands →
      Denotes store graph arrays p operand)
    (evaluated : (store.operator id).evaluate operands = .ok (value :: rest)) :
    Denotes store graph arrays id value

/-- Evaluation computes what the nodes mean, and nothing else gets in its way: the table has every
parameter from the start and the right value of every node in the end. -/
structure EvaluatesAsMeant (graph : Graph) (store : Store) (arrays : List Tensor) : Prop where
  unique : ∀ id value value', Denotes store graph arrays id value →
    Denotes store graph arrays id value' → value = value'
  bound : ∀ id ∈ graph.nodes, store.isParameter id = true →
    ∃ array, lookUp (graph.bindInputs store arrays) (store.name id) = .ok array ∧
      Denotes store graph arrays id array
  succeeds_iff : (∃ results, graph.evaluate store arrays = .ok results) ↔
    ∀ id ∈ graph.nodes, ∃ value, Denotes store graph arrays id value
  results : ∀ results, graph.evaluate store arrays = .ok results →
    List.Forall₂ (Denotes store graph arrays) graph.outputs results ∧
    ∃ order table, graph.topological store = .ok order ∧
      computeAll store (graph.bindInputs store arrays) order = .ok table ∧
      ∀ id ∈ graph.nodes, ∃ value, lookUp table (store.name id) = .ok value ∧
        Denotes store graph arrays id value
  failure : ∀ failure, graph.evaluate store arrays = .error failure →
    FailsAt store graph (Denotes store graph arrays) failure

variable {store : Store} {graph : Graph} {arrays : List Tensor} {id : Nat}

theorem valueFrom_eq_ok {operands : List Tensor} {value : Tensor}
    (counted : (store.producers id).length = operands.length) :
    store.valueFrom id operands = .ok value ↔
      ∃ rest, (store.operator id).evaluate operands = .ok (value :: rest) := by
  rw [Store.valueFrom, Store.evaluate, if_pos counted.symm]
  cases (store.operator id).evaluate operands with
  | error failure => simp
  | ok values => cases values <;> simp

theorem Denotes.of_operands (operation : store.isParameter id = false) {operands : List Tensor}
    {value : Tensor}
    (reads : List.Forall₂ (Denotes store graph arrays) (store.producers id) operands)
    (valued : store.valueFrom id operands = .ok value) : Denotes store graph arrays id value := by
  obtain ⟨rest, evaluated⟩ := (valueFrom_eq_ok reads.length_eq).mp valued
  obtain ⟨counted, each⟩ := List.forall₂_iff_zip.mp reads
  exact .operation operation counted (fun p operand paired => each paired) evaluated

/-- Inputs denote the arrays in their places. -/
theorem denotes_inputs (counted : arrays.length = graph.inputs.length) :
    List.Forall₂ (Denotes store graph arrays) graph.inputs arrays := by
  refine List.forall₂_iff_get.mpr ⟨counted.symm, fun j below below' => ?_⟩
  exact .input j (List.getElem?_eq_getElem below) (List.getElem?_eq_getElem below')

omit [Host] in
private theorem operands_unique {producers : List Nat} {operands operands' : List Tensor}
    {means : Nat → Tensor → Prop}
    (unique : ∀ p operand, (p, operand) ∈ producers.zip operands →
      ∀ operand', means p operand' → operand = operand')
    (counted : producers.length = operands.length)
    (reads : List.Forall₂ means producers operands') : operands = operands' := by
  induction reads generalizing operands with
  | nil => exact List.eq_nil_of_length_eq_zero counted.symm
  | @cons p operand' producers operands' here _ ih =>
    cases operands with
    | nil => cases counted
    | cons operand operands =>
      have first := unique p operand (by simp) operand' here
      have rest : operands = operands' :=
        ih (fun q other paired => unique q other (by simp [paired])) (by simpa using counted)
      rw [first, rest]

section SelfContained

variable (selfContained : graph.IsSelfContained store)

include selfContained

/-- A node has one value at most. -/
theorem Denotes.unique {value : Tensor} (denotes : Denotes store graph arrays id value) :
    ∀ value', Denotes store graph arrays id value' → value = value' := by
  have parameter {j other : Nat} (input : graph.inputs[j]? = some other) :
      store.isParameter other = true :=
    ((selfContained.inputs other).mp (List.mem_of_getElem? input)).2
  induction denotes with
  | @input j id array input given =>
    intro value' denotes'
    cases denotes' with
    | @input k _ _ input' given' =>
      -- Inputs are listed once, so both have the same place.
      obtain ⟨below, here⟩ := List.getElem?_eq_some_iff.mp input
      obtain ⟨below', here'⟩ := List.getElem?_eq_some_iff.mp input'
      obtain rfl := (selfContained.once.getElem_inj_iff).mp (here.trans here'.symm)
      exact Option.some.inj (given.symm.trans given')
    | operation operation =>
      rw [parameter input] at operation
      cases operation
  | @operation id operands rest value operation counted reads evaluated ih =>
    intro value' denotes'
    cases denotes' with
    | input _ input' =>
      rw [parameter input'] at operation
      cases operation
    | operation _ counted' reads' evaluated' =>
      have same := operands_unique ih counted
        (List.forall₂_iff_zip.mpr ⟨counted', fun paired => reads' _ _ paired⟩)
      rw [same, evaluated'] at evaluated
      cases evaluated
      rfl

/-- An operation that fails on what its producers denote has no value itself. -/
theorem FailsAt.not_denotes {failure : Failure}
    (failing : FailsAt store graph (Denotes store graph arrays) failure) :
    ∃ id ∈ graph.nodes, ∀ value, ¬Denotes store graph arrays id value := by
  obtain ⟨id, member, operation, operands, reads, failed⟩ := failing
  refine ⟨id, member, fun value denotes => ?_⟩
  -- A value would come from the same operands, on which the operation fails.
  cases denotes with
  | input _ input =>
    have parameter := ((selfContained.inputs id).mp (List.mem_of_getElem? input)).2
    rw [operation] at parameter
    cases parameter
  | operation _ counted reads' evaluated =>
    have same := operands_unique
      (fun p operand paired => (reads' p operand paired).unique selfContained) counted reads
    subst same
    rw [(valueFrom_eq_ok counted).mpr ⟨_, evaluated⟩] at failed
    cases failed

theorem evaluate_denotes (counted : arrays.length = graph.inputs.length) :
    graph.EvaluatesAsMeant store arrays := by
  have inputs : List.Forall₂ (Denotes store graph arrays) graph.inputs arrays :=
    denotes_inputs counted
  have respects : Respects store graph (Denotes store graph arrays) :=
    fun id _ operation operands reads value valued => .of_operands operation reads valued
  have run := evaluate_run selfContained inputs respects
  refine ⟨fun id value value' denotes => denotes.unique selfContained value', ?_, ?_, ?_, ?_⟩
  · intro id member parameter
    obtain ⟨array, found, denotes⟩ := bindInputs_holds selfContained inputs id member (.inl parameter)
    exact ⟨array, lookUp_eq_ok.mpr found, denotes⟩
  · -- A run that succeeds has values of all nodes, and one that fails leaves one without.
    rcases run with ⟨_, _, results, -, -, evaluated, -, valued, -⟩ | ⟨failure, failed, failing⟩
    · refine ⟨fun _ id member => ?_, fun _ => ⟨results, evaluated⟩⟩
      obtain ⟨value, -, denotes⟩ := valued id member
      exact ⟨value, denotes⟩
    · constructor
      · rintro ⟨results, evaluated⟩
        rw [failed] at evaluated
        cases evaluated
      · intro denotes
        obtain ⟨id, member, none⟩ := failing.not_denotes selfContained
        obtain ⟨value, denoted⟩ := denotes id member
        exact absurd denoted (none value)
  · intro results evaluated
    rcases run with ⟨order, table, results', sorted, ran, evaluated', outputs, valued, -⟩ |
      ⟨failure, failed, -⟩
    · rw [evaluated'] at evaluated
      cases evaluated
      exact ⟨outputs, order, table, sorted, ran, valued⟩
    · rw [failed] at evaluated
      cases evaluated
  · intro failure failed
    rcases run with ⟨_, _, results, -, -, evaluated, -⟩ | ⟨failure', failed', failing⟩
    · rw [evaluated] at failed
      cases failed
    · rw [failed'] at failed
      cases failed
      exact failing

end SelfContained

end OpGraph.Graph
