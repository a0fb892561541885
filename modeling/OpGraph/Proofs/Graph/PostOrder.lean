import Mathlib.Logic.Relation
import OpGraph.Proofs.Graph.Evolution
import OpGraph.Proofs.Graph.Traversal

/-!
# Depth-first post-order

The walk with its stack of tasks gives what the recursion gives: a node is listed after what its
producers list, once, and only if it is a member (`PostOrder`). On nodes that are numbered after
their producers the recursion has exactly one result, and it holds the members that the seed
reaches through members (`isPostOrder_walk`). From the members that none of them reads, all are
reached (`reaches_of_sinks`).

Proof strategy: the nodes on the stack that were entered and not left are readers of those still to
be entered, so their numbers are larger. A node met again is therefore marked exactly when the
recursion has listed it, and the walk follows the recursion node by node (`walk_of_postOrder`).
-/
namespace OpGraph.Traversal

section Recursion

variable (producers : Nat → List Nat) (members : List Nat)

/-- From the nodes listed so far, visiting nodes one after the other leads to the last list. A node
that is listed or no member is passed over; another one follows what its producers add. -/
inductive PostOrder : List Nat → List Nat → List Nat → Prop
  | nil (listed : List Nat) : PostOrder listed [] listed
  | pass {node : Nat} {nodes listed order : List Nat} (done : node ∈ listed ∨ node ∉ members)
      (rest : PostOrder listed nodes order) : PostOrder listed (node :: nodes) order
  | visit {node : Nat} {nodes listed before order : List Nat} (fresh : node ∉ listed)
      (member : node ∈ members) (inner : PostOrder listed (producers node) before)
      (rest : PostOrder (before ++ [node]) nodes order) : PostOrder listed (node :: nodes) order

/-- A member that a node reads. -/
def Reads (node producer : Nat) : Prop :=
  producer ∈ producers node ∧ producer ∈ members

/-- The members that come from a seed by reading members again and again. -/
def Reaches (seed : List Nat) (node : Nat) : Prop :=
  ∃ s ∈ seed, s ∈ members ∧ Relation.ReflTransGen (Reads producers members) s node

end Recursion

variable {producers : Nat → List Nat} {members : List Nat}

/-- Nothing is listed but what is reached. -/
theorem PostOrder.reaches {listed nodes order : List Nat}
    (postOrder : PostOrder producers members listed nodes order) {v : Nat} (member : v ∈ order) :
    v ∈ listed ∨ Reaches producers members nodes v := by
  have later {node : Nat} {nodes : List Nat} (reached : Reaches producers members nodes v) :
      Reaches producers members (node :: nodes) v := by
    obtain ⟨s, seeded, rest⟩ := reached
    exact ⟨s, List.mem_cons_of_mem _ seeded, rest⟩
  induction postOrder with
  | nil => exact .inl member
  | pass _ _ ih => exact (ih member).imp_right later
  | @visit node nodes listed before order _ inside _ _ ih ih' =>
    rcases ih' member with added | reached
    · rcases List.mem_append.mp added with earlier | last
      · refine (ih earlier).imp_right ?_
        -- What a producer reaches, the node reaches through it.
        rintro ⟨p, read, inside', path⟩
        exact ⟨node, List.mem_cons_self, inside, .head ⟨read, inside'⟩ path⟩
      · exact .inr ⟨node, List.mem_cons_self, inside, List.mem_singleton.mp last ▸ .refl⟩
    · exact .inr (later reached)

section Descending

variable (descending : ∀ v ∈ members, ∀ p ∈ producers v, p < v)

include descending

theorem exists_postOrder (bound : Nat) (listed nodes : List Nat)
    (below : ∀ node ∈ nodes, node < bound) :
    ∃ order, PostOrder producers members listed nodes order := by
  induction bound using Nat.strongRecOn generalizing listed nodes with
  | ind bound deeper =>
    induction nodes generalizing listed with
    | nil => exact ⟨listed, .nil listed⟩
    | cons node nodes ih =>
      obtain ⟨first, others⟩ := List.forall_mem_cons.mp below
      by_cases done : node ∈ listed ∨ node ∉ members
      · obtain ⟨order, rest⟩ := ih listed others
        exact ⟨order, .pass done rest⟩
      · obtain ⟨fresh, member⟩ := not_or.mp done
        have member := Decidable.not_not.mp member
        obtain ⟨before, inner⟩ := deeper node first listed (producers node) (descending node member)
        obtain ⟨order, rest⟩ := ih (before ++ [node]) others
        exact ⟨order, .visit fresh member inner rest⟩

/-- The walk works off the entering of nodes as the recursion visits them. `opened` are the nodes
that were entered and wait to be left. -/
theorem walk_of_postOrder {listed nodes order : List Nat}
    (postOrder : PostOrder producers members listed nodes order) (visited opened : List Nat)
    (stack : List Task) (marked : ∀ v, v ∈ visited ↔ v ∈ listed ∨ v ∈ opened)
    (above : ∀ o ∈ opened, ∀ node ∈ nodes, node < o) :
    ∃ visited', (∀ v, v ∈ visited' ↔ v ∈ order ∨ v ∈ opened) ∧
      walk producers members visited listed.reverse (nodes.map .enter ++ stack) =
        walk producers members visited' order.reverse stack := by
  induction postOrder generalizing visited opened stack with
  | nil => exact ⟨visited, marked, rfl⟩
  | @pass node nodes listed order done _ ih =>
    have passed : (visited.contains node || !members.contains node) = true := by
      have entered : node ∈ visited ∨ node ∉ members :=
        done.imp_left fun listed => (marked node).mpr (.inl listed)
      simpa using entered
    obtain ⟨visited', marked', walked⟩ := ih visited opened stack marked
      fun o waits n among => above o waits n (List.mem_cons_of_mem _ among)
    refine ⟨visited', marked', ?_⟩
    rw [List.map_cons, List.cons_append, walk, if_pos passed, walked]
  | @visit node nodes listed before order fresh member _ _ ih ih' =>
    -- A node that waits to be left has a larger number, so this one is entered for the first time.
    have unopened : node ∉ opened := fun waits =>
      Nat.lt_irrefl node (above node waits node List.mem_cons_self)
    have unmarked : node ∉ visited := fun entered =>
      ((marked node).mp entered).elim fresh unopened
    have enters : ¬(visited.contains node || !members.contains node) = true := by
      simpa using ⟨unmarked, member⟩
    obtain ⟨inside, markedInside, walkedInside⟩ := ih (node :: visited) (node :: opened)
      (.leave node :: (nodes.map .enter ++ stack))
      (fun v => by simp only [List.mem_cons, marked v, or_left_comm])
      (fun o waits p read => by
        have smaller := descending node member p read
        rcases List.mem_cons.mp waits with rfl | waits
        · exact smaller
        · exact Nat.lt_trans smaller (above o waits node List.mem_cons_self))
    obtain ⟨visited', marked', walked⟩ := ih' inside opened stack
      (fun v => by simp only [markedInside v, List.mem_append, List.mem_cons, List.not_mem_nil,
        or_false, or_assoc])
      fun o waits n among => above o waits n (List.mem_cons_of_mem _ among)
    refine ⟨visited', marked', ?_⟩
    have leaves : (before ++ [node]).reverse = node :: before.reverse := by simp
    rw [List.map_cons, List.cons_append, walk, if_neg enters, walkedInside, walk, ← leaves, walked]

/-- The order that a walk from a seed gives, among members that are numbered after their
producers. -/
structure IsPostOrder (producers : Nat → List Nat) (members seed order : List Nat) : Prop where
  recursion : ∀ order', PostOrder producers members [] seed order' ↔ order' = order
  nodup : order.Nodup
  mem_iff : ∀ v, v ∈ order ↔ Reaches producers members seed v
  producersFirst : ∀ front v back, order = front ++ v :: back →
    ∀ p ∈ producers v, p ∈ members → p ∈ front

theorem isPostOrder_walk (seed : List Nat) :
    IsPostOrder producers members seed (walk producers members [] [] (seed.map .enter)) := by
  have unique (order : List Nat) (postOrder : PostOrder producers members [] seed order) :
      order = walk producers members [] [] (seed.map .enter) := by
    obtain ⟨visited, -, walked⟩ := walk_of_postOrder descending postOrder [] [] [] (by simp)
      (by simp)
    rw [List.append_nil, List.reverse_nil, walk, List.reverse_reverse] at walked
    exact walked.symm
  -- Producers have smaller numbers, so the recursion from these seeds ends.
  obtain ⟨order, postOrder⟩ := exists_postOrder descending (seed.sum + 1) [] seed
    fun s seeded => Nat.lt_succ_of_le (List.le_sum_of_mem seeded)
  obtain rfl := unique order postOrder
  have closure := isClosure_walk descending seed
  refine ⟨fun order' => ⟨unique order', fun same => same ▸ postOrder⟩, closure.nodup, fun v => ?_,
    closure.producersFirst⟩
  constructor
  · intro member
    exact (postOrder.reaches member).resolve_left (by simp)
  · rintro ⟨s, seeded, inside, path⟩
    induction path with
    | refl => exact closure.seeded s seeded inside
    | tail _ reads collected => exact closure.closed _ collected _ reads.1 reads.2

end Descending

/-! ### Sinks -/

theorem mem_sinks {id : Nat} :
    id ∈ sinks producers members ↔ id ∈ members ∧ ∀ reader ∈ members, id ∉ producers reader := by
  simp [sinks]

/-- Every member comes from one that no member reads. -/
theorem reaches_of_sinks (distinct : members.Nodup)
    (descending : ∀ v ∈ members, ∀ p ∈ producers v, p < v) {v : Nat} (member : v ∈ members) :
    Reaches producers members (sinks producers members) v := by
  -- The order has all members, and, as a post-order, only what can be reached from the sinks.
  obtain ⟨order, sorted, isOrder⟩ := isOrder_topological distinct descending
  have postOrder := isPostOrder_walk descending (sinks producers members)
  rw [← topological_eq order sorted] at postOrder
  exact (postOrder.mem_iff v).mp ((isOrder.mem_iff v).mpr member)

end OpGraph.Traversal
