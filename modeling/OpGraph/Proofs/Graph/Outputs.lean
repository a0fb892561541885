import OpGraph.Graph.Printing
import OpGraph.Proofs.Graph.Meaning
import OpGraph.Proofs.Graph.Stopping

/-!
# Outputs from elsewhere

The outputs of a graph need not be among its nodes, even where its nodes are closed under reading.
What printing, inference and evaluation then make of the graph can be said exactly
(`treatsOutputs`): it is printed only with outputs inside, inference ends at an output that nothing
resolved, and evaluation at an output whose name no node of the graph has. Apart from that, printing
and inference can only fail for a number that is too long to be written.
-/
namespace OpGraph

/-- All that is printed of an operator can be written. -/
structure Operator.IsWritten (operator : Operator) : Prop where
  attributes : ∀ entry ∈ operator.named, entry.2.isShort = true
  declared : ∀ type, operator = .parameter type → type.isShort = true

namespace Store

/-- A generic operation that reads nothing has no outputs. -/
def IsTypeless (store : Store) (id : Nat) : Prop :=
  (∃ name attrs, store.operator id = .generic name attrs) ∧ store.producers id = []

theorem isTypeless_of_types {store : Store} (began : empty.Evolves store) {id : Nat}
    (typed : (store.node id).types = some []) : store.IsTypeless id := by
  have consistent := isConsistent_empty.evolves began
  cases operation : store.isParameter id with
  | true =>
    -- The type of a parameter is the one it was declared with.
    cases declared : store.operator id with
    | parameter type =>
      rw [consistent.declared id type declared] at typed
      cases typed
    | _ =>
      rw [isParameter, declared] at operation
      cases operation
  | false =>
    have computed := consistent.computed id operation [] typed
    obtain ⟨inputs, given, accepted⟩ := computeTypes_eq_ok.mp computed
    rcases Operator.infer_single accepted with ⟨name, attrs, generic, rfl⟩ | ⟨type, none⟩
    · obtain ⟨-, outputs⟩ := inputTypes_eq_ok.mp given
      exact ⟨⟨name, attrs, generic⟩, List.forall₂_nil_right_iff.mp outputs⟩
    · cases none

theorem attributeTexts_eq (operator : Operator) :
    operator.attributeTexts =
      if operator.named.all (fun entry => entry.2.isShort)
      then .ok (operator.named.map fun entry => entry.1 ++ "=" ++ entry.2.display)
      else .error .numberTooLong := by
  rw [← mapM_writeWhen]
  refine congrArg (fun step => operator.named.mapM step) (funext fun entry => ?_)
  obtain ⟨name, value⟩ := entry
  simp only [Value.write]
  cases value.isShort <;> rfl

theorem declaredType_eq (operator : Operator) :
    (∃ texts, declaredType operator = .ok texts) ∧
        (∀ type, operator = .parameter type → type.isShort = true) ∨
      declaredType operator = .error .numberTooLong ∧
        ∃ type, operator = .parameter type ∧ type.isShort = false := by
  cases operator with
  | parameter type =>
    simp only [declaredType, TensorType.write]
    cases short : type.isShort with
    | false => exact .inr ⟨rfl, type, rfl, short⟩
    | true =>
      refine .inl ⟨⟨_, rfl⟩, fun _ same => ?_⟩
      cases same
      exact short
  | _ => exact .inl ⟨⟨[], rfl⟩, nofun⟩

/-- A node is printed unless it has a number that is too long. -/
theorem text_cases (store : Store) (id : Nat) :
    (∃ text, store.text id = .ok text) ∧ (store.operator id).IsWritten ∨
      store.text id = .error .numberTooLong ∧ ¬(store.operator id).IsWritten := by
  rw [text, attributeTexts_eq]
  cases short : (store.operator id).named.all fun entry => entry.2.isShort with
  | false =>
    refine .inr ⟨rfl, fun isWritten => ?_⟩
    rw [List.all_eq_true.mpr isWritten.attributes] at short
    cases short
  | true =>
    have attributes := List.all_eq_true.mp short
    rw [if_pos rfl, Outcome.ok_bind]
    rcases declaredType_eq (store.operator id) with
      ⟨⟨texts, declared⟩, written⟩ | ⟨declared, type, parameter, long⟩
    · rw [declared, Outcome.ok_bind]
      exact .inl ⟨⟨_, rfl⟩, attributes, written⟩
    · rw [declared, Outcome.error_bind]
      refine .inr ⟨rfl, fun isWritten => ?_⟩
      rw [isWritten.declared type parameter] at long
      cases long

end Store

namespace Graph

open Store

/-- The failures of inference that has resolved all nodes of the graph. -/
inductive FailsResolved (store : Store) (graph : Graph) : Failure → Prop
  | outside {id : Nat} (output : id ∈ graph.outputs) (outside : id ∉ graph.nodes)
      (unresolved : store.isResolved id = false) :
    FailsResolved store graph (.outputsUnresolved (store.name id))
  | typeless {id : Nat} (output : id ∈ graph.outputs) (typeless : store.IsTypeless id) :
    FailsResolved store graph .positionOutOfRange
  | overlong {id : Nat} {types : List TensorType} (known : id ∈ graph.nodes ∨ id ∈ graph.outputs)
      (typed : store.outputTypes id = .ok types)
      (many : types.all TensorType.isShort = false) : FailsResolved store graph .numberTooLong

theorem mapM_nodeLine (store : Store) (needed : List Nat) :
    (∃ lines, needed.mapM (nodeLine store) = .ok lines) ∧
        (∀ id ∈ needed, (store.operator id).IsWritten) ∨
      needed.mapM (nodeLine store) = .error .numberTooLong ∧
        ∃ id ∈ needed, ¬(store.operator id).IsWritten := by
  induction needed with
  | nil => exact .inl ⟨⟨[], rfl⟩, by simp⟩
  | cons id needed ih =>
    rw [List.mapM_cons, nodeLine]
    rcases store.text_cases id with ⟨⟨text, first⟩, written⟩ | ⟨first, long⟩
    · rw [first, Outcome.ok_bind]
      rcases ih with ⟨⟨lines, rest⟩, each⟩ | ⟨rest, other, member, long⟩
      · rw [rest]
        exact .inl ⟨⟨_, rfl⟩, List.forall_mem_cons.mpr ⟨written, each⟩⟩
      · rw [rest]
        exact .inr ⟨rfl, other, List.mem_cons_of_mem id member, long⟩
    · rw [first]
      exact .inr ⟨rfl, id, List.mem_cons_self, long⟩

/-- What printing, inference and evaluation make of the outputs, wherever these come from. -/
structure TreatsOutputs [Host] (store : Store) (graph : Graph) : Prop where
  printed : (∀ id ∈ graph.outputs, id ∈ graph.nodes) →
    ∃ needed, Traversal.fromSeed store.producers graph.nodes graph.outputs = .ok needed ∧
      match graph.text store with
      | .ok _ => ∀ id ∈ needed, (store.operator id).IsWritten
      | .error failure => failure = .numberTooLong ∧
          ∃ id ∈ needed, ¬(store.operator id).IsWritten
  refused : ∀ id ∈ graph.outputs, id ∉ graph.nodes → graph.text store = .error .seedOutside
  typed : (∀ id ∈ graph.nodes, (graph.infer store).1.isResolved id = true) →
    match (graph.infer store).2 with
    | .ok types => List.Forall₂ (fun id type => (graph.infer store).1.outputType id = .ok type)
        graph.outputs types
    | .error failure => FailsResolved (graph.infer store).1 graph failure
  valued : ∀ arrays, arrays.length = graph.inputs.length →
    match graph.evaluate store arrays with
    | .ok results => (∀ id ∈ graph.nodes, ∃ value, Denotes store graph arrays id value) ∧
        List.Forall₂ (fun id value => ∃ member ∈ graph.nodes, store.name member = store.name id ∧
          Denotes store graph arrays member value) graph.outputs results
    | .error failure => FailsAt store graph (Denotes store graph arrays) failure ∨
        (∀ id ∈ graph.nodes, ∃ value, Denotes store graph arrays id value) ∧
        failure = .unknownKey ∧
        ∃ id ∈ graph.outputs, ∀ member ∈ graph.nodes, store.name member ≠ store.name id

section Outputs

variable [Host] {store : Store} {graph : Graph}
  (inner : (graph.setOutputs []).IsSelfContained store)

include inner

omit [Host] in
/-- With every node resolved, inference is left with the types of the outputs, unless the node that
was resolved last could not be reported. -/
theorem infer_outputs (resolved : ∀ id ∈ graph.nodes, (graph.infer store).1.isResolved id = true) :
    (graph.infer store).2 = graph.outputTypes (graph.infer store).1 >>= report ∨
      (graph.infer store).2 = .error .numberTooLong ∧
        ∃ id ∈ graph.nodes, ∃ types, (graph.infer store).1.outputTypes id = .ok types ∧
          types.all TensorType.isShort = false := by
  obtain ⟨order, sorted, isOrder⟩ := isOrder_of_descending inner.distinct inner.descending
  rw [infer_store store graph order sorted] at resolved ⊢
  rw [infer_eq store graph order sorted]
  cases ran : (resolveAll store order).2 with
  | ok => exact .inl rfl
  | error failure =>
    right
    obtain ⟨front, id, back, rfl, -, unresolved, refused⟩ :=
      resolveAll_stops order store failure ran
    have member : id ∈ graph.nodes := (isOrder.mem_iff id).mp (by simp)
    obtain ⟨types, -, inferred⟩ | ⟨-, failure', inferred⟩ := infer_cases unresolved
    · rw [inferred, Prod.mk.injEq] at refused
      obtain ⟨set, long⟩ := refused
      have keeps := (store.evolves_resolveAll front).keeps
      obtain ⟨node, held⟩ :=
        Option.isSome_iff_exists.mp (keeps.becomes (inner.found id member)).1
      rw [report_eq] at long
      cases short : types.all TensorType.isShort with
      | true =>
        rw [short] at long
        cases long
      | false =>
        rw [short] at long
        cases long
        refine ⟨rfl, id, member, types, ?_, short⟩
        rw [← set, Store.outputTypes_eq_ok,
          node_of_find? _ _ _ (Store.find?_setTypes_self _ id types node held)]
    · -- A run that stops otherwise leaves the node unresolved that it stops at.
      rw [inferred, Prod.mk.injEq] at refused
      rw [refused.1, resolved id member] at unresolved
      cases unresolved

omit [Host] in
theorem typed_outputs (began : Store.empty.Evolves store)
    (resolved : ∀ id ∈ graph.nodes, (graph.infer store).1.isResolved id = true) :
    Outcome.Fails (FailsResolved (graph.infer store).1 graph) (graph.infer store).2 := by
  have after := began.trans (evolves_inferGraph store graph)
  rcases infer_outputs inner resolved with ended | ⟨ended, id, member, types, typed, many⟩
  · rw [ended]
    refine .bind (Outcome.Fails.mapM fun id output => ?_) fun types given => ?_
    · cases known : ((graph.infer store).1.node id).types with
      | none =>
        have unresolved : (graph.infer store).1.isResolved id = false := by
          rw [isResolved, known]
          rfl
        have outside : id ∉ graph.nodes := by
          intro member
          rw [resolved id member] at unresolved
          cases unresolved
        rw [outputType, Store.outputTypes, known]
        exact .error (.outside output outside unresolved)
      | some types =>
        rw [outputType, Store.outputTypes, known]
        cases types with
        | nil => exact .error (.typeless output (isTypeless_of_types after known))
        | cons type types => exact .ok type
    · rw [report_eq]
      cases short : types.all TensorType.isShort with
      | true => exact .ok types
      | false =>
        -- One of the types is too long, which is the first one of an output.
        obtain ⟨type, among, many⟩ := List.all_eq_false.mp short
        obtain ⟨id, output, first⟩ := Outcome.forall₂_mem_left
          ((Outcome.mapM_eq_ok_iff _ _ _).mp given).flip type among
        simp only [outputType, Outcome.bind_eq_ok] at first
        obtain ⟨types', typed, first⟩ := first
        refine .error (.overlong (.inr output) typed (List.all_eq_false.mpr ⟨type, ?_, many⟩))
        unfold typeAt at first
        split at first
        next found =>
          cases first
          exact List.mem_of_getElem? found
        · cases first
  · rw [ended]
    exact .error (.overlong (.inl member) typed many)

/-- The outputs are read off a table that has the right value under the name of every node and no
other names. -/
theorem valued_outputs {arrays : List Tensor} (counted : arrays.length = graph.inputs.length) :
    match graph.evaluate store arrays with
    | .ok results => (∀ id ∈ graph.nodes, ∃ value, Denotes store graph arrays id value) ∧
        List.Forall₂ (fun id value => ∃ member ∈ graph.nodes, store.name member = store.name id ∧
          Denotes store graph arrays member value) graph.outputs results
    | .error failure => FailsAt store graph (Denotes store graph arrays) failure ∨
        (∀ id ∈ graph.nodes, ∃ value, Denotes store graph arrays id value) ∧
        failure = .unknownKey ∧
        ∃ id ∈ graph.outputs, ∀ member ∈ graph.nodes, store.name member ≠ store.name id := by
  have inputs : List.Forall₂ (Denotes store graph arrays) graph.inputs arrays :=
    denotes_inputs counted
  have respects : Respects store graph (Denotes store graph arrays) :=
    fun id _ operation operands reads value valued => .of_operands operation reads valued
  obtain ⟨order, sorted, run⟩ := table_run inner inputs respects
  have members := (Traversal.topological_mem order sorted).2
  rw [evaluate_eq counted sorted]
  rcases run with ⟨table, ran, valued, -⟩ | ⟨failure, ran, failing⟩
  · have ran : computeAll store (graph.bindInputs store arrays) order = .ok table := ran
    have values : ∀ id ∈ graph.nodes, ∃ value, Denotes store graph arrays id value := by
      intro id member
      obtain ⟨value, -, denotes⟩ := valued id member
      exact ⟨value, denotes⟩
    -- Every name in the table is that of a node.
    have named (name : String) (value : Tensor) (found : table.lookup name = some value) :
        ∃ member ∈ graph.nodes, store.name member = name := by
      rcases lookup_computeAll ran found with ⟨before, held⟩ | ⟨id, among, same⟩
      · obtain ⟨id, input, same⟩ := lookup_bindInputs held
        exact ⟨id, ((inner.inputs id).mp input).1, same⟩
      · exact ⟨id, members id among, same⟩
    rw [ran, Outcome.ok_bind]
    split
    next results read =>
      refine ⟨values, ((Outcome.mapM_eq_ok_iff _ _ _).mp read).imp fun id value found => ?_⟩
      obtain ⟨member, among, same⟩ := named _ value (lookUp_eq_ok.mp found)
      obtain ⟨value', found', denotes⟩ := valued member among
      rw [same, found] at found'
      cases found'
      exact ⟨member, among, same, denotes⟩
    next failure failed =>
      have fails : Outcome.Fails (fun failure => failure = .unknownKey ∧
          ∃ id ∈ graph.outputs, ∀ member ∈ graph.nodes, store.name member ≠ store.name id)
          (graph.outputs.mapM fun id => lookUp table (store.name id)) := by
        refine Outcome.Fails.mapM fun id output failure failed => ?_
        obtain ⟨absent, unknown⟩ := lookUp_eq_error.mp failed
        refine ⟨unknown, id, output, fun member among same => ?_⟩
        obtain ⟨value, found, -⟩ := valued member among
        rw [same, lookUp_eq_ok, absent] at found
        cases found
      exact .inr ⟨values, fails failure failed⟩
  · have ran : computeAll store (graph.bindInputs store arrays) order = .error failure := ran
    rw [ran, Outcome.error_bind]
    exact .inl failing

omit [Host] inner in
/-- Outputs inside are printed with all that they need, unless a number is too long. -/
theorem printed_outputs (distinct : graph.nodes.Nodup)
    (inside : ∀ id ∈ graph.outputs, id ∈ graph.nodes) :
    ∃ needed, Traversal.fromSeed store.producers graph.nodes graph.outputs = .ok needed ∧
      match graph.text store with
      | .ok _ => ∀ id ∈ needed, (store.operator id).IsWritten
      | .error failure => failure = .numberTooLong ∧
          ∃ id ∈ needed, ¬(store.operator id).IsWritten := by
  have seeded : Traversal.fromSeed store.producers graph.nodes graph.outputs = .ok _ :=
    Traversal.fromSeed_inside distinct inside
  refine ⟨_, seeded, ?_⟩
  rw [text, seeded, Outcome.ok_bind, nodesText]
  cases nodes : graph.nodes with
  | nil =>
    -- Without nodes there are no outputs inside, so nothing is needed.
    have none : graph.outputs = [] := List.eq_nil_iff_forall_not_mem.mpr fun id output => by
      simpa [nodes] using inside id output
    simp [none, Traversal.walk, pure, Except.pure]
  | cons first others =>
    rw [← nodes, nodes, List.isEmpty_cons, if_neg Bool.false_ne_true]
    rcases mapM_nodeLine store (Traversal.walk store.producers (first :: others) [] []
      (graph.outputs.map .enter)) with ⟨⟨lines, written⟩, each⟩ | ⟨failed, long⟩
    · rw [written]
      exact each
    · rw [failed]
      exact ⟨rfl, long⟩

theorem treatsOutputs (began : Store.empty.Evolves store) : graph.TreatsOutputs store := by
  have distinct : graph.nodes.Nodup := List.Nodup.of_map _ inner.distinct
  refine ⟨printed_outputs distinct, fun id output outside => ?_, fun resolved => ?_,
    fun arrays counted => valued_outputs inner counted⟩
  · rw [text, Traversal.fromSeed_outside distinct output outside]
    rfl
  · have fails := typed_outputs inner began resolved
    split
    next types accepted =>
      exact (Outcome.mapM_eq_ok_iff _ _ _).mp (outputTypes_infer store graph types accepted)
    next failure failed => exact fails failure failed

end Outputs

end Graph

end OpGraph
