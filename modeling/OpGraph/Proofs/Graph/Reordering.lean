import OpGraph.Proofs.Graph.Derivation
import OpGraph.Proofs.Graph.Stopping

/-!
# Inference in another order, and once more

Two graphs that list the same nodes in different orders are inferred alike, whichever nodes were
resolved before (`infer_reordered`), and inference that was tried before ends as it did then and
changes nothing (`infer_infer`). For generic operators this is so as long as what they hand on can
be written (`IsReportable`): types that were set before they could not be reported fail one run and
not the next. All other operators have written what their types are made of before they infer them.

Proof strategy: types are what the structure of the nodes gives, so a node that both runs resolve
has the same types in both (`outputType_agrees`). Where one run resolved all nodes, the other one
stops nowhere: the node it would stop at is computed from types that the first run had as well
(`resolveAll_succeeds`). No step goes along the two orders together, since they have nothing in
common but that producers come first.
-/
namespace OpGraph

namespace Store

section Agreement

variable {base store other : Store} (began : empty.Evolves base) (before : base.Evolves store)
  (before' : base.Evolves other) {id : Nat}

include began before before'

/-- Types that a node gets in two ways to go on are the same. -/
theorem types_agree (found : (base.find? id).isSome = true) {types types' : List TensorType}
    (typed : (store.node id).types = some types) (typed' : (other.node id).types = some types') :
    types = types' := by
  have matching := (isGrounded_empty.evolves began).sameStructure before.keeps before'.keeps
  have derived := isDerived_empty.evolves (began.trans before)
  have derived' := isDerived_empty.evolves (began.trans before')
  exact (derived id types typed).unique matching ⟨rfl, found⟩ (derived' id types' typed')

theorem outputTypes_agree (found : (base.find? id).isSome = true)
    (resolved : store.isResolved id = true) (resolved' : other.isResolved id = true) :
    ∃ types, store.outputTypes id = .ok types ∧ other.outputTypes id = .ok types := by
  obtain ⟨types, typed⟩ := Option.isSome_iff_exists.mp resolved
  obtain ⟨types', typed'⟩ := Option.isSome_iff_exists.mp resolved'
  obtain rfl : types = types' := types_agree began before before' found typed typed'
  exact ⟨types, (store.outputTypes_eq_ok id types).mpr typed,
    (other.outputTypes_eq_ok id types).mpr typed'⟩

theorem outputType_agrees (found : (base.find? id).isSome = true)
    (resolved : store.isResolved id = true) (resolved' : other.isResolved id = true) :
    store.outputType id = other.outputType id := by
  obtain ⟨types, typed, typed'⟩ :=
    outputTypes_agree began before before' found resolved resolved'
  rw [outputType, typed, outputType, typed']

/-- What a node is computed to in one store it is computed to in the other, once its producers are
resolved there too. -/
theorem computeTypes_agrees (found : (base.find? id).isSome = true)
    (ready : ∀ p ∈ base.producers id, store.isResolved p = true) {types : List TensorType}
    (computed : other.computeTypes id = .ok types) : store.computeTypes id = .ok types := by
  have becomes := (before.keeps.becomes found).2
  have becomes' := (before'.keeps.becomes found).2
  have producers : store.producers id = base.producers id := becomes.producers
  have producers' : other.producers id = base.producers id := becomes'.producers
  have operator : store.operator id = other.operator id :=
    becomes.operator.trans becomes'.operator.symm
  obtain ⟨node, held⟩ := Option.isSome_iff_exists.mp found
  -- The producers were there before the two stores parted, so their types agree in both.
  have reads : ∀ p ∈ base.producers id, (base.find? p).isSome = true := by
    intro p read
    rw [Store.producers, node_of_find? _ _ _ held] at read
    exact ((isGrounded_empty.evolves began).reads id node held p read).2
  obtain ⟨inputs, given, accepted⟩ := computeTypes_eq_ok.mp computed
  obtain ⟨ready', outputs⟩ := inputTypes_eq_ok.mp given
  rw [producers'] at ready' outputs
  refine computeTypes_eq_ok.mpr ⟨inputs, inputTypes_eq_ok.mpr ⟨by rwa [producers], ?_⟩, ?_⟩
  · rw [producers]
    have each := (List.forall₂_and_left _ _).mpr ⟨fun p read => read, outputs⟩
    refine each.imp fun p type output => ?_
    rw [outputType_agrees began before before' (reads p output.1) (ready p output.1)
      (ready' p output.1)]
    exact output.2
  · rw [operator]
    exact accepted

end Agreement

end Store

namespace Graph

open Store

/-! ### Types that can be reported -/

/-- What the structure gives the generic nodes can be written. -/
def IsReportable (store : Store) (nodes : List Nat) : Prop :=
  ∀ id ∈ nodes, (store.operator id).isGeneric = true → ∀ types, store.Infers id types →
    types.all TensorType.isShort = true

/-- Whatever the nodes are resolved to from now on can be written. -/
def Reports (store : Store) (nodes : List Nat) : Prop :=
  ∀ id ∈ nodes, ∀ later, store.Evolves later → ∀ types, later.Resolves id types →
    types.all TensorType.isShort = true

theorem IsReportable.reports {base store : Store} {nodes : List Nat}
    (reportable : IsReportable base nodes) (began : Store.empty.Evolves base)
    (before : base.Evolves store) (found : ∀ id ∈ nodes, (base.find? id).isSome = true) :
    Reports store nodes := by
  intro id member later after types resolves
  have evolves := before.trans after
  have becomes := evolves.keeps.becomes (found id member)
  cases generic : (later.operator id).isGeneric with
  | false =>
    obtain ⟨inputs, -, inferred⟩ := computeTypes_eq_ok.mp resolves.computed
    exact Operator.areShort_of_infer generic resolves.operation inferred
  | true =>
    -- The structure gave the same types before the store went on.
    have derived := (isDerived_empty.evolves (began.trans evolves)).infers becomes.1 resolves
    have operator : later.operator id = base.operator id := becomes.2.operator
    rw [operator] at generic
    exact reportable id member generic types
      (derived.of_keeps (isGrounded_empty.evolves began) evolves.keeps (found id member))

/-- A node that fails for another reason than its report stays as it is. -/
theorem eq_of_infer_error {store left : Store} {id : Nat} {failure : Failure}
    (unresolved : store.isResolved id = false)
    (reports : ∀ types, store.Resolves id types → types.all TensorType.isShort = true)
    (failed : store.infer id = (left, .error failure)) : left = store := by
  obtain ⟨types, resolves, inferred⟩ | ⟨-, failure', inferred⟩ := infer_cases unresolved
  · rw [inferred, report_eq_ok.mpr ⟨reports types resolves, rfl⟩] at failed
    cases failed
  · rw [inferred] at failed
    cases failed
    rfl

/-! ### Once more -/

theorem resolveAll_of_isResolved (ids : List Nat) (store : Store)
    (resolved : ∀ id ∈ ids, store.isResolved id = true) :
    resolveAll store ids = (store, .ok ()) := by
  induction ids with
  | nil => rfl
  | cons id ids ih =>
    rw [resolveAll, if_pos (resolved id (by simp))]
    exact ih fun other member => resolved other (by simp [member])

theorem resolveAll_append (front back : List Nat) (store : Store)
    (resolved : ∀ id ∈ front, store.isResolved id = true) :
    resolveAll store (front ++ back) = resolveAll store back := by
  induction front with
  | nil => rfl
  | cons id front ih =>
    rw [List.cons_append, resolveAll, if_pos (resolved id (by simp))]
    exact ih fun other member => resolved other (by simp [member])

/-- A second run over nodes that exist ends like the first one, where that one left off. -/
theorem resolveAll_resolveAll (ids : List Nat) (store : Store)
    (found : ∀ id ∈ ids, (store.find? id).isSome = true) (reports : Reports store ids) :
    resolveAll (resolveAll store ids).1 ids = resolveAll store ids := by
  cases ran : (resolveAll store ids).2 with
  | ok =>
    have resolved := fun id member => resolveAll_resolves ids store ran id member (found id member)
    rw [resolveAll_of_isResolved ids _ resolved, ← ran]
  | error failure =>
    obtain ⟨front, id, back, rfl, before, unresolved, refused⟩ :=
      resolveAll_stops ids store failure ran
    have left := eq_of_infer_error unresolved
      (reports id (by simp) _ (store.evolves_resolveAll front)) refused
    -- The nodes before the one that failed are passed over, and that one fails as it did.
    have resolved : ∀ other ∈ front, (resolveAll store front).1.isResolved other = true :=
      fun other member =>
        resolveAll_resolves front store before other member (found other (by simp [member]))
    have again : resolveAll (resolveAll store front).1 (front ++ id :: back) =
        ((resolveAll store (front ++ id :: back)).1, .error failure) := by
      rw [resolveAll_append front _ _ resolved, resolveAll, unresolved, refused]
      rfl
    rw [left, again, ← ran]

/-- Inference done once more ends as it did, and changes nothing. -/
theorem infer_infer (store : Store) (graph : Graph)
    (found : ∀ id ∈ graph.nodes, (store.find? id).isSome = true)
    (reports : Reports store graph.nodes) :
    graph.infer (graph.infer store).1 = graph.infer store := by
  have producers := funext (infer_advances store graph).producers
  have same : graph.topological (graph.infer store).1 = graph.topological store := by
    rw [topological, topological, producers]
  cases sorted : graph.topological store with
  | error failure =>
    rw [infer, same, infer, sorted]
  | ok order =>
    have members := (Traversal.topological_mem order sorted).2
    have again := resolveAll_resolveAll order store (fun id member => found id (members id member))
      fun id member => reports id (members id member)
    rw [infer_eq _ graph order (same.trans sorted), infer_store store graph order sorted, again,
      infer_eq store graph order sorted]

/-! ### Another order -/

/-- Distinct nodes that read nodes among them only. -/
structure IsClosed (store : Store) (nodes : List Nat) : Prop where
  found : ∀ id ∈ nodes, (store.find? id).isSome = true
  distinct : nodes.Nodup
  closed : ∀ id ∈ nodes, ∀ p ∈ store.producers id, p ∈ nodes

theorem IsClosed.perm {store : Store} {nodes nodes' : List Nat} (isClosed : IsClosed store nodes)
    (reordered : nodes.Perm nodes') : IsClosed store nodes' where
  found id member := isClosed.found id (reordered.mem_iff.mpr member)
  distinct := reordered.nodup isClosed.distinct
  closed id member p read :=
    reordered.mem_iff.mp (isClosed.closed id (reordered.mem_iff.mpr member) p read)

theorem IsReportable.perm {store : Store} {nodes nodes' : List Nat}
    (reportable : IsReportable store nodes) (reordered : nodes.Perm nodes') :
    IsReportable store nodes' :=
  fun id member => reportable id (reordered.mem_iff.mpr member)

section Reordering

variable {base store other : Store} (began : Store.empty.Evolves base) (before : base.Evolves store)
  (before' : base.Evolves other)

include began before in
/-- Nodes of a store that came about by steps can be ordered. -/
theorem IsClosed.isOrder {graph : Graph} (isClosed : IsClosed base graph.nodes) :
    ∃ order, graph.topological store = .ok order ∧
      Traversal.IsOrder store.producers graph.nodes order :=
  Traversal.isOrder_topological isClosed.distinct fun id _ =>
    (isGrounded_empty.evolves (began.trans before)).descending id

include began before before' in
/-- Where all nodes could be resolved, no order of them is stopped. -/
theorem resolveAll_succeeds {nodes order : List Nat} (isClosed : IsClosed base nodes)
    (reportable : IsReportable base nodes)
    (isOrder : Traversal.IsOrder store.producers nodes order)
    (resolved : ∀ id ∈ nodes, other.isResolved id = true) :
    (resolveAll store order).2 = .ok () := by
  cases ran : (resolveAll store order).2 with
  | ok => rfl
  | error failure =>
    exfalso
    obtain ⟨front, id, back, rfl, done, unresolved, refused⟩ :=
      resolveAll_stops order store failure ran
    have member : id ∈ nodes := (isOrder.mem_iff id).mp (by simp)
    have found := isClosed.found id member
    have after := before.trans (store.evolves_resolveAll front)
    -- A parameter has the type that it was declared with.
    have operation : (resolveAll store front).1.isParameter id = false := by
      cases declared : (resolveAll store front).1.operator id with
      | parameter type =>
        have typed := (isConsistent_empty.evolves (began.trans after)).declared id type declared
        rw [isResolved, typed] at unresolved
        cases unresolved
      | _ => rw [isParameter, declared]; rfl
    -- The other run computed this node from types that are known here too.
    obtain ⟨types, typed⟩ := Option.isSome_iff_exists.mp (resolved id member)
    have operation' : other.isParameter id = false := by
      rw [before'.keeps.isParameter found, ← after.keeps.isParameter found, operation]
    have computed :=
      (isConsistent_empty.evolves (began.trans before')).computed id operation' types typed
    have ready : ∀ p ∈ base.producers id, (resolveAll store front).1.isResolved p = true := by
      intro p read
      have among := isClosed.closed id member p read
      have producers : store.producers id = base.producers id :=
        (before.keeps.becomes found).2.producers
      have earlier := isOrder.producersFirst front id back rfl p (producers ▸ read) among
      exact resolveAll_resolves front store done p earlier
        (before.keeps.becomes (isClosed.found p among)).1
    have accepted := computeTypes_agrees began after before' found ready computed
    have resolves : (resolveAll store front).1.Resolves id types :=
      ⟨operation, unresolved, accepted⟩
    have written := reportable.reports began before isClosed.found id member _
      (store.evolves_resolveAll front) types resolves
    rw [resolves.infer, report_eq_ok.mpr ⟨written, rfl⟩] at refused
    cases congrArg Prod.snd refused

include began before before' in
/-- Success in one order is success in any other one, with the same types. -/
theorem infer_reordered {graph graph' : Graph} (isClosed : IsClosed base graph.nodes)
    (reportable : IsReportable base graph.nodes)
    (reordered : graph.nodes.Perm graph'.nodes) (outputs : graph'.outputs = graph.outputs)
    (inside : ∀ id ∈ graph.outputs, id ∈ graph.nodes) {types : List TensorType}
    (succeeded : (graph.infer store).2 = .ok types) :
    (graph'.infer other).2 = .ok types ∧ ∀ id ∈ graph.nodes, ∃ types,
      (graph.infer store).1.outputTypes id = .ok types ∧
        (graph'.infer other).1.outputTypes id = .ok types := by
  obtain ⟨order, sorted, ran, given, short⟩ := (infer_succeeds_iff store graph types).mp succeeded
  obtain ⟨order', sorted', isOrder'⟩ := (isClosed.perm reordered).isOrder began before'
  obtain ⟨order'', sorted'', isOrder⟩ := isClosed.isOrder began before
  obtain rfl : order = order'' := Except.ok.inj (sorted.symm.trans sorted'')
  -- All nodes are resolved in the first store, so none of them can stop the run in the second one.
  have after := before.trans (store.evolves_resolveAll order)
  have after' := before'.trans (other.evolves_resolveAll order')
  have resolved : ∀ id ∈ graph.nodes, (resolveAll store order).1.isResolved id = true :=
    fun id member => resolveAll_resolves order store ran id ((isOrder.mem_iff id).mpr member)
      (before.keeps.becomes (isClosed.found id member)).1
  have ran' : (resolveAll other order').2 = .ok () :=
    resolveAll_succeeds began before' after (isClosed.perm reordered)
      (reportable.perm reordered) isOrder' fun id member =>
        resolved id (reordered.mem_iff.mpr member)
  have resolved' : ∀ id ∈ graph.nodes, (resolveAll other order').1.isResolved id = true :=
    fun id member =>
      resolveAll_resolves order' other ran' id
        ((isOrder'.mem_iff id).mpr (reordered.mem_iff.mp member))
        (before'.keeps.becomes (isClosed.found id member)).1
  have given' : graph'.outputTypes (resolveAll other order').1 = .ok types := by
    rw [Graph.outputTypes, Outcome.mapM_eq_ok_iff] at given ⊢
    rw [outputs]
    have each := (List.forall₂_and_left _ _).mpr ⟨inside, given⟩
    refine each.imp fun id type output => ?_
    rw [← outputType_agrees began after after' (isClosed.found id output.1)
      (resolved id output.1) (resolved' id output.1)]
    exact output.2
  refine ⟨(infer_succeeds_iff other graph' types).mpr ⟨order', sorted', ran', given', short⟩, ?_⟩
  intro id member
  rw [infer_store store graph order sorted, infer_store other graph' order' sorted']
  exact outputTypes_agree began after after' (isClosed.found id member) (resolved id member)
    (resolved' id member)

end Reordering

end Graph

end OpGraph
