import OpGraph.Proofs.Description.Loading
import OpGraph.Proofs.Graph.Evaluation

/-!
# Evaluation of loaded graphs

What inference promises of a loaded graph, evaluation keeps, except at obstructed nodes: on arrays
of the declared types every node is computed to an array of the type inferred for it, and the
results have the types that inference gave, in order (`evaluate_loaded`).
-/
namespace OpGraph.Description

open OpGraph.Graph (computeAll lookUp)

/-- The inputs of a graph are parameters, which inference leaves as they are. -/
private theorem computes_inputs [Host] {store : Store} {graph : Graph}
    (wellFormed : graph.WellFormed store) {arrays : List Tensor}
    (bound : List.Forall₂ (fun id array => store.outputType id = .ok array.type) graph.inputs arrays)
    (known : ∀ array ∈ arrays, array.etype ≠ .dynamic)
    (writable : ∀ array ∈ arrays, array.writable = true) :
    List.Forall₂ (graph.infer store).1.Computes graph.inputs arrays := by
  have advances := Graph.infer_advances store graph
  rw [List.forall₂_iff_zip] at bound ⊢
  obtain ⟨counted, typed⟩ := bound
  refine ⟨counted, fun {id array} paired => ?_⟩
  obtain ⟨input, among⟩ := List.of_mem_zip paired
  obtain ⟨member, parameter⟩ := (wellFormed.inputs id).mp input
  have resolved : store.isResolved id = true := by
    rw [wellFormed.isResolved_eq_isParameter member, parameter]
  refine ⟨?_, known array among, ?_⟩
  · rw [advances.outputType resolved]
    exact typed paired
  · rw [writable array among, advances.operator id]
    -- Only a slice takes numbers out of an array, and an input is a parameter.
    rw [Store.isParameter] at parameter
    generalize store.operator id = operator at parameter ⊢
    cases operator <;> first | rfl | cases parameter

/-- A loaded graph whose inputs have constant types and whose types could be inferred evaluates
on all arrays of the input types, unless it has an obstructed node. The results have the types
inferred, and so has the value of every node in the table that evaluation fills. -/
theorem evaluate_loaded [Host] [DescriptionReader] (initial store : Store) (text : String)
    (graph : Graph) (types : List TensorType) (arrays : List Tensor)
    (loaded : load .library initial text = (store, .ok graph))
    (constant : ∀ id ∈ graph.inputs, ∀ type, store.outputType id = .ok type →
      type.isConstant = true)
    (accepted : (graph.infer store).2 = .ok types)
    (bound : List.Forall₂ (fun id array => store.outputType id = .ok array.type) graph.inputs arrays)
    (writable : ∀ array ∈ arrays, array.writable = true) :
    let resolved := (graph.infer store).1
    ((∃ results, graph.evaluate resolved arrays = .ok results) ↔
        ∀ id ∈ graph.nodes, ¬resolved.Obstructed id) ∧
      ∀ results, graph.evaluate resolved arrays = .ok results →
        types = results.map Tensor.type ∧
        ∃ order table, graph.topological resolved = .ok order ∧
          computeAll resolved (graph.bindInputs resolved arrays) order = .ok table ∧
          ∀ id ∈ graph.nodes, ∃ value, lookUp table (resolved.name id) = .ok value ∧
            resolved.outputType id = .ok value.type := by
  intro resolved
  have wellFormed := wellFormed_of_load loaded
  have inferred := wellFormed.isInferred types accepted
  -- The declared type is constant, and the array has that type.
  have known : ∀ array ∈ arrays, array.etype ≠ .dynamic := by
    intro array among
    obtain ⟨id, input, typed⟩ := Outcome.forall₂_mem_left bound.flip array among
    obtain ⟨lengths, etype, static, same⟩ :=
      (TensorType.isConstant_iff _).mp (constant id input _ typed)
    obtain ⟨-, rfl⟩ := array.type_eq lengths etype same
    exact static
  have inputs := computes_inputs wellFormed bound known writable
  have evaluates := Graph.evaluate_ok_iff inferred inputs
  refine ⟨evaluates, fun results succeeded => ?_⟩
  obtain ⟨order, table, results', sorted, ran, succeeded', typed, outputs⟩ :=
    Graph.evaluate_ok_typed inferred inputs (evaluates.mp ⟨results, succeeded⟩)
  obtain rfl : results = results' := Except.ok.inj (succeeded.symm.trans succeeded')
  have outputs' := Graph.outputTypes_infer store graph types accepted
  exact ⟨Except.ok.inj (outputs'.symm.trans outputs), order, table, sorted, ran, typed⟩

/-- A parameter of three integers, the first and the last of which are replaced. -/
def bothEnds : String :=
  "inputs:\n- name: x\n  shape: 3\n  dtype: int32\n- name: z\n  shape: 2\n  dtype: int32\n" ++
    "nodes:\n- name: y\n  op: ReplaceSlice\n  inputs: x, z\n" ++
    "  attrs:\n    lower_bounds: 0\n    upper_bounds: 3\n    strides: 2\n"

theorem evaluate_loaded_bothEnds :
    let _host : Host := .wide
    let _reader : DescriptionReader := .plain
    let array (n : Nat) : Tensor := .ofElements .int32 (.ofFn [n] fun index => (index.sum : Nat))
    ∃ store graph results, load .library .empty bothEnds = (store, .ok graph) ∧
      graph.evaluate (graph.infer store).1 [array 3, array 2] = .ok results ∧
      results.map Tensor.type = [⟨.ofLengths [3], .int32⟩] := by
  intro _host _reader array
  let graph : Graph := ⟨none, [0, 1], [2], [0, 1, 2]⟩
  have computed : (load .library .empty bothEnds).2.toOption = some graph ∧
      let store := (load .library .empty bothEnds).1
      (store.producers 0 = [] ∧ store.producers 1 = [] ∧ store.producers 2 = [0, 1]) ∧
      ((store.operator 0).isSlice = false ∧ store.isParameter 0 = true ∧
        store.isParameter 1 = true ∧ (store.operator 2).writes = true) ∧
      ((store.outputType 0).toOption = some ⟨.ofLengths [3], .int32⟩ ∧
        (store.outputType 1).toOption = some ⟨.ofLengths [2], .int32⟩) ∧
      (Graph.resolveAll store [0, 1, 2]).2.toOption = some () ∧
      (graph.outputTypes (Graph.resolveAll store [0, 1, 2]).1).toOption =
        some [⟨.ofLengths [3], .int32⟩] := by
    decide +kernel
  obtain ⟨store, isStore⟩ : ∃ store, store = (load .library .empty bothEnds).1 := ⟨_, rfl⟩
  rw [← isStore] at computed
  obtain ⟨made, reads, operators, types, ran⟩ := computed
  have loaded : load .library .empty bothEnds = (store, .ok graph) :=
    Prod.ext isStore.symm (Outcome.toOption_eq_some.mp made)
  simp only [Outcome.toOption_eq_some] at types ran
  have sorted : graph.topological store = .ok [0, 1, 2] := by
    simp [Graph.topological, Traversal.topological, Traversal.fromSeed, Traversal.unique,
      Traversal.sinks, Traversal.walk, List.eraseDups_cons, graph, reads]
  have accepted : (graph.infer store).2 = .ok [⟨.ofLengths [3], .int32⟩] :=
    (Graph.infer_succeeds_iff _ _ _).mpr ⟨[0, 1, 2], sorted, ran.1, ran.2, by decide +kernel⟩
  have advances := Graph.infer_advances store graph
  have clear : ∀ id ∈ graph.nodes, ¬(graph.infer store).1.Obstructed id := by
    intro id member obstructed
    have listed : id = 0 ∨ id = 1 ∨ id = 2 := by simpa [graph] using member
    have operation := obstructed.operation
    rw [Store.isParameter, advances.operator, ← Store.isParameter] at operation
    rcases listed with rfl | rfl | rfl
    · rw [operators.2.1] at operation
      cases operation
    · rw [operators.2.2.1] at operation
      cases operation
    · -- The third node writes to a parameter, and makes no array that could be too large.
      cases obstructed with
      | number target rest etype writes producers slice =>
        rw [advances.producers, reads.2.2] at producers
        cases producers
        rw [advances.operator, operators.1] at slice
        cases slice
      | oversized inputs typed oversized =>
        have writes := oversized.writes
        rw [advances.operator, operators.2.2.2] at writes
        cases writes
  obtain ⟨evaluates, typed⟩ := evaluate_loaded .empty store bothEnds graph
    [⟨.ofLengths [3], .int32⟩] [array 3, array 2] loaded
    (by
      intro id member type typed
      have listed : id = 0 ∨ id = 1 := by simpa [graph] using member
      rcases listed with rfl | rfl
      · cases types.1.symm.trans typed
        rfl
      · cases types.2.symm.trans typed
        rfl)
    accepted (.cons types.1 (.cons types.2 .nil)) (by simp [array, Tensor.ofElements])
  obtain ⟨results, evaluated⟩ := evaluates.mpr clear
  exact ⟨store, graph, results, loaded, evaluated, (typed results evaluated).1.symm⟩

end OpGraph.Description
