import OpGraph.Proofs.Builder.Session
import OpGraph.Proofs.Graph.PostOrder

/-!
# Traversal in a session

At every point of a session the traversal of nodes from a seed is refused for repeated nodes and for
a seed outside of them, and otherwise gives the depth-first post-order (`fromSeed_of_run`). A node
can only read nodes made before it, so the recursion ends; nodes may be read several times and by
several others, and the seed may repeat nodes. Started from the nodes that no other one reads, it
gives all of them (`topological_of_run`).
-/
namespace OpGraph.Workspace

open Traversal

variable [DescriptionReader] [Host]

theorem fromSeed_of_run (actions : List Action) (nodes seed : List Nat) :
    let producers := (initial.run actions).store.producers
    (∀ failure, fromSeed producers nodes seed = .error failure ↔
      (failure = .duplicateNodes ∧ ¬nodes.Nodup) ∨
        (failure = .seedOutside ∧ nodes.Nodup ∧ ∃ s ∈ seed, s ∉ nodes)) ∧
    (nodes.Nodup → (∀ s ∈ seed, s ∈ nodes) →
      ∃ order, fromSeed producers nodes seed = .ok order ∧
        IsPostOrder producers nodes seed order) := by
  intro producers
  have grounded := Store.isGrounded_empty.evolves (evolves_initial actions)
  refine ⟨fun failure => ?_, fun distinct inside => ⟨_, fromSeed_inside distinct inside,
    isPostOrder_walk (fun v _ => grounded.descending v) seed⟩⟩
  by_cases distinct : nodes.Nodup
  · by_cases inside : ∀ s ∈ seed, s ∈ nodes
    · rw [fromSeed_inside distinct inside]
      simpa [distinct] using fun _ => inside
    · obtain ⟨s, outside⟩ := not_forall.mp inside
      obtain ⟨seeded, outside⟩ := Classical.not_imp.mp outside
      have outsider : ∃ s ∈ seed, s ∉ nodes := ⟨s, seeded, outside⟩
      rw [fromSeed_outside distinct seeded outside]
      simp only [Except.error.injEq, distinct, not_true_eq_false, and_false, outsider, and_true,
        false_or, eq_comm]
  · rw [fromSeed_duplicates distinct]
    simp only [Except.error.injEq, distinct, not_false_eq_true, and_true, false_and, and_false,
      or_false, eq_comm]

omit [DescriptionReader] [Host] in
/-- The second node of the seed is read by the first, once by itself and once through a node that is
no member; the seed repeats the first. -/
theorem fromSeed_of_run_outsider :
    let _host : Host := .wide
    let _reader : DescriptionReader := .plain
    let parameter : Operator := .parameter ⟨.ofLengths [2, 2], .int32⟩
    let actions : List Action :=
      [.create false parameter [] none, .create false parameter [] none,
        .create false .dot [1, 0] none, .create false .dot [2, 2] none,
        .create false .dot [3, 2] none]
    let producers := (initial.run actions).store.producers
    fromSeed producers [4, 0, 1, 2] [4, 2, 4] = .ok [1, 0, 2, 4] ∧
      IsPostOrder producers [4, 0, 1, 2] [4, 2, 4] [1, 0, 2, 4] := by
  intro _host _reader parameter actions producers
  obtain ⟨order, traversed, isPostOrder⟩ :=
    (fromSeed_of_run actions [4, 0, 1, 2] [4, 2, 4]).2 (by decide) (by decide)
  have second : PostOrder producers [4, 0, 1, 2] [] [2] [1, 0, 2] :=
    .visit (by decide) (by decide)
      (.visit (by decide) (by decide) (.nil [])
        (.visit (by decide) (by decide) (.nil [1]) (.nil _)))
      (.nil _)
  have recursion : PostOrder producers [4, 0, 1, 2] [] [4, 2, 4] [1, 0, 2, 4] :=
    .visit (by decide) (by decide) (.pass (.inr (by decide)) second)
      (.pass (.inl (by decide)) (.pass (.inl (by decide)) (.nil _)))
  obtain rfl := (isPostOrder.recursion _).mp recursion
  exact ⟨traversed, isPostOrder⟩

/-- At every point of a session, whatever failed before: distinct nodes are all traversed, since each
of them comes, through the others, from one that none of them reads. A node reads nodes with smaller
numbers, numbers stay with their nodes, and new ones are larger than all that were given. -/
theorem topological_of_run (actions : List Action) :
    let ws := initial.run actions
    let producers := ws.store.producers
    (∀ nodes : List Nat, nodes.Nodup →
      (∃ order, topological producers nodes = .ok order ∧ order.Perm nodes) ∧
        ∀ v ∈ nodes, ∃ sink ∈ nodes, (∀ reader ∈ nodes, sink ∉ producers reader) ∧
          Relation.ReflTransGen (Reads producers nodes) sink v) ∧
      (∀ v, ∀ p ∈ producers v, p < v ∧ ws.hasNode p = true) ∧
      (∀ later v, ws.hasNode v = true → (ws.run later).hasNode v = true ∧
        (ws.store.node v).Becomes ((ws.run later).store.node v)) ∧
      ∀ later v, (ws.run later).hasNode v = true →
        ws.hasNode v = true ∨ ∀ made, ws.hasNode made = true → made < v := by
  intro ws producers
  have grounded : ws.store.IsGrounded :=
    Store.isGrounded_empty.evolves (evolves_initial actions)
  refine ⟨fun nodes distinct => ?_, grounded.producers,
    fun later v found => (ws.evolves_run later).keeps.becomes found, fun later v found => ?_⟩
  · have descending : ∀ v ∈ nodes, ∀ p ∈ producers v, p < v := fun v _ => grounded.descending v
    obtain ⟨order, sorted, isOrder⟩ := isOrder_topological distinct descending
    refine ⟨⟨order, sorted, ?_⟩, fun v member => ?_⟩
    · exact (List.perm_ext_iff_of_nodup isOrder.nodup distinct).mpr isOrder.mem_iff
    · obtain ⟨sink, isSink, inside, path⟩ := reaches_of_sinks distinct descending member
      exact ⟨sink, inside, (mem_sinks.mp isSink).2, path⟩
  · by_cases known : ws.hasNode v = true
    · exact .inl known
    · exact .inr fun made found' => (ws.evolves_run later).lt_of_new found' known found

omit [DescriptionReader] [Host] in
/-- Two constructions are refused between those of the nodes, one of which is no member although
members read it. -/
theorem topological_of_run_refused :
    let _host : Host := .wide
    let _reader : DescriptionReader := .plain
    let parameter : Operator := .parameter ⟨.ofLengths [2, 2], .int32⟩
    let actions : List Action :=
      [.create false parameter [] none, .create false parameter [0] none,
        .create false .dot [0, 0] none, .create false .dot [2, 0] none,
        .create false parameter [2] none, .create false .dot [3, 2] none,
        .create false .dot [2, 2] none]
    let ws := initial.run actions
    ws.hasNode 1 = false ∧ ws.hasNode 4 = false ∧
      (∃ order, topological ws.store.producers [2, 6, 5] = .ok order ∧ order.Perm [2, 6, 5]) ∧
      (ws.run [.create false .dot [6, 5] none]).hasNode 7 = true ∧
      ∀ made, ws.hasNode made = true → made < 7 := by
  intro _host _reader parameter actions ws
  obtain ⟨ordered, -, -, larger⟩ := topological_of_run actions
  have found : (ws.run [.create false .dot [6, 5] none]).hasNode 7 = true := by decide +kernel
  have absent : ¬ws.hasNode 7 = true := by decide +kernel
  exact ⟨by decide +kernel, by decide +kernel, (ordered [2, 6, 5] (by decide)).1, found,
    (larger _ 7 found).resolve_left absent⟩

end OpGraph.Workspace
