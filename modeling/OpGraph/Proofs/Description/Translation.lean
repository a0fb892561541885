import OpGraph.Proofs.Description.Loading
import OpGraph.Proofs.Graph.Translation

/-!
# Translation of loaded graphs

A loaded graph whose inputs have constant types, once its types are inferred, is constant
throughout and can be translated: into the indexed dialect always, into the direct dialect unless
it has a replacement, which has no direct kernel (`translate_loaded`). Whatever the attributes and
the shapes were, no translator fails at a node, and no placeholder is left in what it writes.
-/
namespace OpGraph.Description

/-- Once inference has succeeded on a loaded graph whose inputs have constant types, all types are
constant and every registered translator writes a kernel for each node of its kind: in its dialect,
with the plan of its operator where the dialect has plans, and with all placeholders filled. So the
graph is translated, with one kernel for each operation, but into the direct dialect only as long as
it holds no replacement. -/
theorem translate_loaded [DescriptionReader] (initial store later : Store) (text : String)
    (graph : Graph) (types : List TensorType)
    (loaded : load .library initial text = (store, .ok graph))
    (evolves : store.Evolves later)
    (constant : ∀ id ∈ graph.inputs, ∀ type, store.outputType id = .ok type →
      type.isConstant = true)
    (accepted : (graph.infer later).2 = .ok types) :
    let resolved := (graph.infer later).1
    (∀ id ∈ graph.nodes, ∃ type, resolved.outputTypes id = .ok [type] ∧
        type.isConstant = true) ∧
      (∃ kernels, graph.translate .library resolved .indexed = .ok kernels ∧
        graph.IsCoveredBy resolved .indexed kernels) ∧
      ((∀ id ∈ graph.nodes, (resolved.operator id).kind ≠ ReplaceSlice.kind) →
        ∃ kernels, graph.translate .library resolved .direct = .ok kernels ∧
          graph.IsCoveredBy resolved .direct kernels) ∧
      ((∃ id ∈ graph.nodes, (resolved.operator id).kind = ReplaceSlice.kind) →
        graph.translate .library resolved .direct =
          .error (.noTranslator ReplaceSlice.kind .direct)) ∧
      ∀ id ∈ graph.nodes, resolved.isParameter id = false → ∀ dialect translator,
        Registry.library.translator (resolved.operator id).kind dialect = .ok translator →
        ∃ fragment, translator.run (resolved.view id) = .ok fragment ∧
          fragment.IsKernel (resolved.operator id) dialect := by
  intro resolved
  have isStatic := (wellFormed_of_load loaded).isStatic constant |>.evolves evolves
  have all := (isStatic.infer_ok accepted).1
  -- Inference is one more way in which the store evolves, so what it leaves is constant as well.
  have after := isStatic.evolves (Store.evolves_inferGraph later graph)
  have translates : ∀ id ∈ graph.nodes, resolved.isParameter id = false →
      (resolved.view id).Translates :=
    fun id member operation => after.translates all member operation
  refine ⟨fun id member => after.outputTypes_single all member, ?_, ?_, ?_, ?_⟩
  · exact Graph.translate_succeeds after.toIsSelfContained fun id member operation =>
      (translates id member operation).indexed
  · intro none
    exact Graph.translate_succeeds after.toIsSelfContained fun id member operation =>
      (translates id member operation).direct (none id member)
  · rintro ⟨id, member, kind⟩
    have operation : resolved.isParameter id = false := Operator.isParameter_of_kind kind
    exact Graph.translate_refuses after.toIsSelfContained member operation
      ((translates id member operation).refused kind)
      fun id member operation => (translates id member operation).fails_direct
  · intro id member operation dialect translator registered
    exact (translates id member operation).run registered

/-- Every second of four integers from the second on. -/
def everySecond : String :=
  "inputs:\n- name: x\n  shape: 4\n  dtype: int32\n" ++
    "nodes:\n- name: y\n  op: Slice\n  inputs: x\n" ++
    "  attrs:\n    lower_bounds: 1\n    upper_bounds: 4\n    strides: 2\n"

theorem translate_loaded_everySecond :
    let _reader : DescriptionReader := .plain
    ∃ store graph kernels, load .library .empty everySecond = (store, .ok graph) ∧
      graph.translate .library (graph.infer store).1 .direct = .ok kernels ∧
      graph.IsCoveredBy (graph.infer store).1 .direct kernels := by
  intro _reader
  let graph : Graph := ⟨none, [0], [1], [0, 1]⟩
  have computed : (load .library .empty everySecond).2.toOption = some graph ∧
      let store := (load .library .empty everySecond).1
      (store.producers 0 = [] ∧ store.producers 1 = [0]) ∧
      (∀ id ∈ graph.nodes, (store.operator id).kind ≠ ReplaceSlice.kind) ∧
      (store.outputType 0).toOption = some ⟨.ofLengths [4], .int32⟩ ∧
      (Graph.resolveAll store [0, 1]).2.toOption = some () ∧
      (graph.outputTypes (Graph.resolveAll store [0, 1]).1).toOption =
        some [⟨.ofLengths [2], .int32⟩] := by
    decide +kernel
  obtain ⟨store, isStore⟩ : ∃ store, store = (load .library .empty everySecond).1 := ⟨_, rfl⟩
  rw [← isStore] at computed
  obtain ⟨made, reads, kinds, declared, ran⟩ := computed
  have loaded : load .library .empty everySecond = (store, .ok graph) :=
    Prod.ext isStore.symm (Outcome.toOption_eq_some.mp made)
  simp only [Outcome.toOption_eq_some] at declared ran
  have sorted : graph.topological store = .ok [0, 1] := by
    simp [Graph.topological, Traversal.topological, Traversal.fromSeed, Traversal.unique,
      Traversal.sinks, Traversal.walk, List.eraseDups_cons, graph, reads]
  have accepted : (graph.infer store).2 = .ok [⟨.ofLengths [2], .int32⟩] :=
    (Graph.infer_succeeds_iff _ _ _).mpr ⟨[0, 1], sorted, ran.1, ran.2, by decide +kernel⟩
  have constant : ∀ id ∈ graph.inputs, ∀ type, store.outputType id = .ok type →
      type.isConstant = true := by
    intro id member type typed
    obtain rfl : id = 0 := by simpa [graph] using member
    cases declared.symm.trans typed
    rfl
  obtain ⟨-, -, direct, -⟩ := translate_loaded .empty store store everySecond graph
    [⟨.ofLengths [2], .int32⟩] loaded (.refl store) constant accepted
  have operators := (Graph.infer_advances store graph).operator
  obtain ⟨kernels, written, covered⟩ := direct fun id member => by
    rw [operators id]
    exact kinds id member
  exact ⟨store, graph, kernels, loaded, written, covered⟩

end OpGraph.Description
