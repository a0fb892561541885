import Mathlib.Algebra.Order.BigOperators.Group.List
import Mathlib.Algebra.Order.Group.Nat
import Mathlib.Data.List.Nodup
import Mathlib.Data.List.Perm.Basic
import OpGraph.Graph.Traversal

/-!
# Topological order

Main result: the order of distinct nodes holds each of them once, after all of its producers
among them (`isOrder_topological`). Nodes are numbered after their producers.

Proof strategy: what the walk has entered, it has left or is still to leave (`Walked`); what is
wanted is entered or waits on the stack, so an empty stack leaves nothing wanted behind. The
nodes on the stack that stand before the leaving of a node come from below that node
(`Stacked`), so a node that is met again there has been left, and with it its producers.
-/
namespace OpGraph.Traversal

/-- The nodes that a stack is to leave. -/
def leaves (stack : List Task) : List Nat :=
  stack.filterMap fun
    | .leave node => some node
    | .enter _ => none

@[simp] theorem leaves_nil : leaves [] = [] :=
  rfl

@[simp] theorem leaves_enter (node : Nat) (stack : List Task) :
    leaves (.enter node :: stack) = leaves stack :=
  rfl

@[simp] theorem leaves_leave (node : Nat) (stack : List Task) :
    leaves (.leave node :: stack) = node :: leaves stack :=
  rfl

@[simp] theorem leaves_map_enter (nodes : List Nat) (stack : List Task) :
    leaves (nodes.map .enter ++ stack) = leaves stack := by
  induction nodes with
  | nil => rfl
  | cons node nodes ih => exact ih

section Walk

variable {producers : Nat → List Nat} {members seed : List Nat}

/-! ### What is entered -/

/-- What a walk keeps from step to step. -/
structure Walked (producers : Nat → List Nat) (members seed visited ordered : List Nat)
    (stack : List Task) : Prop where
  entered : ∀ v, v ∈ visited ↔ v ∈ ordered ++ leaves stack
  inside : ∀ v ∈ visited, v ∈ members
  nodup : (ordered ++ leaves stack).Nodup
  wanted : ∀ p ∈ members, (p ∈ seed ∨ ∃ v ∈ visited, p ∈ producers v) →
    p ∈ visited ∨ .enter p ∈ stack

namespace Walked

variable {visited ordered : List Nat} {stack : List Task} {node : Nat}

theorem start (producers : Nat → List Nat) (members seed : List Nat) :
    Walked producers members seed [] [] (seed.map .enter) where
  entered := by
    have none := leaves_map_enter seed []
    rw [List.append_nil] at none
    simp [none]
  inside := by simp
  nodup := by
    have none := leaves_map_enter seed []
    rw [List.append_nil] at none
    simp [none]
  wanted := by simp

theorem skip (walked : Walked producers members seed visited ordered (.enter node :: stack))
    (done : node ∈ visited ∨ node ∉ members) :
    Walked producers members seed visited ordered stack where
  entered := walked.entered
  inside := walked.inside
  nodup := walked.nodup
  wanted := by
    intro p inside wanted
    rcases walked.wanted p inside wanted with known | waiting
    · exact Or.inl known
    · rcases List.mem_cons.mp waiting with same | later
      · cases same
        exact Or.inl (done.resolve_right fun outside => outside inside)
      · exact Or.inr later

theorem leave (walked : Walked producers members seed visited ordered (.leave node :: stack)) :
    Walked producers members seed visited (node :: ordered) stack := by
  -- The node moves from the nodes that wait to the ordered ones; together they are the same.
  have moved : (node :: ordered ++ leaves stack).Perm
      (ordered ++ leaves (.leave node :: stack)) := by
    rw [leaves_leave]
    exact List.perm_middle.symm
  constructor
  · intro v
    rw [moved.mem_iff]
    exact walked.entered v
  · exact walked.inside
  · exact moved.nodup_iff.mpr walked.nodup
  · intro p inside wanted
    rcases walked.wanted p inside wanted with known | waiting
    · exact Or.inl known
    · exact Or.inr (by simpa using waiting)

theorem enter (walked : Walked producers members seed visited ordered (.enter node :: stack))
    (fresh : node ∉ visited) (member : node ∈ members) :
    Walked producers members seed (node :: visited) ordered
      ((producers node).map .enter ++ .leave node :: stack) := by
  -- A node is entered once: the only new task to leave it is the one pushed here.
  have unlisted : node ∉ ordered ++ leaves stack := mt (walked.entered node).mpr fresh
  constructor
  · intro v
    rw [leaves_map_enter, leaves_leave, List.perm_middle.mem_iff, List.mem_cons, List.mem_cons,
      walked.entered v, leaves_enter]
  · intro v entered
    rcases List.mem_cons.mp entered with rfl | earlier
    · exact member
    · exact walked.inside v earlier
  · rw [leaves_map_enter, leaves_leave, List.perm_middle.nodup_iff]
    exact List.nodup_cons.mpr ⟨unlisted, walked.nodup⟩
  · intro p inside wanted
    have known : p ∈ producers node ∨ p ∈ visited ∨ .enter p ∈ .enter node :: stack := by
      rcases wanted with seeded | ⟨v, entered, read⟩
      · exact Or.inr (walked.wanted p inside (Or.inl seeded))
      · rcases List.mem_cons.mp entered with rfl | earlier
        · exact Or.inl read
        · exact Or.inr (walked.wanted p inside (Or.inr ⟨v, earlier, read⟩))
    rcases known with read | earlier | waiting
    · exact Or.inr (by simp [read])
    · exact Or.inl (by simp [earlier])
    · rcases List.mem_cons.mp waiting with same | later
      · cases same
        exact Or.inl (by simp)
      · exact Or.inr (by simp [later])

end Walked

/-! ### What is left -/

/-- Each node of the list stands before its producers among the members. -/
def BeforeProducers (producers : Nat → List Nat) (members : List Nat) : List Nat → Prop
  | [] => True
  | v :: earlier =>
    (∀ p ∈ producers v, p ∈ members → p ∈ earlier) ∧ BeforeProducers producers members earlier

/-- Tasks before the leaving of a node are about nodes of smaller numbers, and the producers of
the node are left or among them; `above` holds the nodes of the tasks passed. -/
def Stacked (producers : Nat → List Nat) (members ordered : List Nat) :
    List Nat → List Task → Prop
  | _, [] => True
  | above, .enter node :: stack => Stacked producers members ordered (node :: above) stack
  | above, .leave node :: stack =>
    (∀ t ∈ above, t < node) ∧ (∀ p ∈ producers node, p ∈ members → p ∈ ordered ∨ p ∈ above) ∧
      Stacked producers members ordered (node :: above) stack

namespace Stacked

variable {ordered ordered' : List Nat}

theorem mono {above above' : List Nat} {stack : List Task}
    (stacked : Stacked producers members ordered above stack)
    (bounded : ∀ t ∈ above', ∃ u ∈ above, t ≤ u)
    (kept : ∀ p ∈ members, p ∈ ordered ∨ p ∈ above → p ∈ ordered' ∨ p ∈ above') :
    Stacked producers members ordered' above' stack := by
  induction stack generalizing above above' with
  | nil => trivial
  | cons task stack ih =>
    -- Passing a task puts its node on both sides, which keeps both assumptions.
    have bounded' (node : Nat) : ∀ t ∈ node :: above', ∃ u ∈ node :: above, t ≤ u := by
      intro t member
      rcases List.mem_cons.mp member with rfl | among
      · exact ⟨t, by simp, Nat.le_refl t⟩
      · obtain ⟨u, held, below⟩ := bounded t among
        exact ⟨u, by simp [held], below⟩
    have kept' (node : Nat) : ∀ p ∈ members, p ∈ ordered ∨ p ∈ node :: above →
        p ∈ ordered' ∨ p ∈ node :: above' := by
      intro p inside held
      rcases held with left | passed
      · exact (kept p inside (Or.inl left)).imp_right (List.mem_cons_of_mem _)
      · rcases List.mem_cons.mp passed with rfl | passed
        · exact Or.inr (by simp)
        · exact (kept p inside (Or.inr passed)).imp_right (List.mem_cons_of_mem _)
    cases task with
    | enter node => exact ih stacked (bounded' node) (kept' node)
    | leave node =>
      obtain ⟨below, ready, rest⟩ := stacked
      refine ⟨?_, fun p read inside => kept p inside (ready p read inside),
        ih rest (bounded' node) (kept' node)⟩
      intro t member
      obtain ⟨u, held, under⟩ := bounded t member
      exact Nat.lt_of_le_of_lt under (below u held)

theorem lt_leaves {above : List Nat} {stack : List Task}
    (stacked : Stacked producers members ordered above stack) (t v : Nat) (passed : t ∈ above)
    (leaving : v ∈ leaves stack) : t < v := by
  induction stack generalizing above with
  | nil => cases leaving
  | cons task stack ih =>
    cases task with
    | enter node => exact ih stacked (List.mem_cons_of_mem _ passed) leaving
    | leave node =>
      rcases List.mem_cons.mp leaving with rfl | later
      · exact stacked.1 t passed
      · exact ih stacked.2.2 (List.mem_cons_of_mem _ passed) later

/-- Tasks to enter are only passed over. -/
theorem map_enter {nodes above : List Nat} {stack : List Task}
    (stacked : Stacked producers members ordered (nodes.reverse ++ above) stack) :
    Stacked producers members ordered above (nodes.map .enter ++ stack) := by
  induction nodes generalizing above with
  | nil => exact stacked
  | cons node nodes ih =>
    refine ih ?_
    simpa using stacked

theorem start (seed : List Nat) : Stacked producers members ordered [] (seed.map .enter) := by
  have passed : Stacked producers members ordered [] (seed.map .enter ++ []) :=
    map_enter trivial
  rwa [List.append_nil] at passed

variable {visited : List Nat} {stack : List Task} {node : Nat}

theorem skip (stacked : Stacked producers members ordered [] (.enter node :: stack))
    (walked : Walked producers members seed visited ordered (.enter node :: stack))
    (done : node ∈ visited ∨ node ∉ members) : Stacked producers members ordered [] stack := by
  have above : Stacked producers members ordered [node] stack := stacked
  refine above.mono (by simp) fun p inside held => ?_
  rcases held with left | passed
  · exact Or.inl left
  · rcases List.mem_singleton.mp passed with rfl
    have entered := (walked.entered p).mp (done.resolve_right fun outside => outside inside)
    rcases List.mem_append.mp entered with left | leaving
    · exact Or.inl left
    · exact absurd (lt_leaves above p p (by simp) leaving) (Nat.lt_irrefl p)

theorem enter (stacked : Stacked producers members ordered [] (.enter node :: stack))
    (descending : ∀ p ∈ producers node, p < node) :
    Stacked producers members ordered []
      ((producers node).map .enter ++ .leave node :: stack) := by
  have above : Stacked producers members ordered [node] stack := stacked
  refine map_enter ⟨by simpa using descending, fun p read _ => Or.inr (by simp [read]), ?_⟩
  refine above.mono ?_ fun p _ held => held.imp_right fun passed => ?_
  · intro t member
    refine ⟨node, by simp, ?_⟩
    rcases List.mem_cons.mp member with rfl | read
    · exact Nat.le_refl t
    · exact Nat.le_of_lt (descending t (by simpa using read))
  · rcases List.mem_singleton.mp passed with rfl
    simp

theorem leave (stacked : Stacked producers members ordered [] (.leave node :: stack)) :
    (∀ p ∈ producers node, p ∈ members → p ∈ ordered) ∧
      Stacked producers members (node :: ordered) [] stack := by
  obtain ⟨-, ready, rest⟩ := stacked
  refine ⟨fun p read inside => (ready p read inside).resolve_right (by simp),
    rest.mono (by simp) fun p _ held => Or.inl ?_⟩
  rcases held with left | passed
  · simp [left]
  · simp [List.mem_singleton.mp passed]

end Stacked

/-! ### The result of a walk -/

theorem walk_eq {visited ordered : List Nat} {stack : List Task}
    (walked : Walked producers members seed visited ordered stack) :
    ∃ visited' ordered', Walked producers members seed visited' ordered' [] ∧
      walk producers members visited ordered stack = ordered'.reverse ∧
      ((∀ v ∈ members, ∀ p ∈ producers v, p < v) →
        Stacked producers members ordered [] stack →
        BeforeProducers producers members ordered →
        BeforeProducers producers members ordered') := by
  -- The walk is followed task by task; that the order is sorted is carried along as an implication,
  -- since it needs that producers have smaller numbers.
  fun_induction walk producers members visited ordered stack with
  | case1 visited ordered => exact ⟨visited, ordered, walked, rfl, fun _ _ sorted => sorted⟩
  | case2 visited ordered node stack ih =>
    obtain ⟨visited', ordered', walked', result, sorts⟩ := ih walked.leave
    refine ⟨visited', ordered', walked', result, fun descending stacked sorted => ?_⟩
    obtain ⟨ready, stacked⟩ := stacked.leave
    exact sorts descending stacked ⟨ready, sorted⟩
  | case3 visited ordered node stack done ih =>
    have skipped : node ∈ visited ∨ node ∉ members := by simpa using done
    obtain ⟨visited', ordered', walked', result, sorts⟩ := ih (walked.skip skipped)
    exact ⟨visited', ordered', walked', result, fun descending stacked sorted =>
      sorts descending (stacked.skip walked skipped) sorted⟩
  | case4 visited ordered node stack fresh ih =>
    have entered : node ∉ visited ∧ node ∈ members := by simpa using fresh
    obtain ⟨visited', ordered', walked', result, sorts⟩ := ih (walked.enter entered.1 entered.2)
    exact ⟨visited', ordered', walked', result, fun descending stacked sorted =>
      sorts descending (stacked.enter (descending node entered.2)) sorted⟩

end Walk

/-! ### Topological order -/

theorem unique_of_nodup (nodes : List Nat) (distinct : nodes.Nodup) : unique nodes = nodes := by
  induction nodes with
  | nil => rfl
  | cons node nodes ih =>
    obtain ⟨fresh, rest⟩ := List.nodup_cons.mp distinct
    have others : nodes.filter (fun other => !other == node) = nodes := by
      refine List.filter_eq_self.mpr fun other member => ?_
      have different : other ≠ node := fun same => fresh (same ▸ member)
      simp [different]
    rw [unique, List.eraseDups_cons, others]
    exact congrArg (node :: ·) (ih rest)

theorem length_unique_le (nodes : List Nat) : (unique nodes).length ≤ nodes.length := by
  induction length : nodes.length using Nat.strongRecOn generalizing nodes with
  | ind length ih =>
    subst length
    cases nodes with
    | nil => exact Nat.le_refl _
    | cons node nodes =>
      have shorter := List.length_filter_le (fun other => !other == node) nodes
      have rest := ih _ (Nat.lt_succ_of_le shorter) (nodes.filter fun other => !other == node) rfl
      rw [unique, List.eraseDups_cons, List.length_cons, List.length_cons]
      exact Nat.succ_le_succ (rest.trans shorter)

theorem nodup_of_length_unique (nodes : List Nat)
    (same : (unique nodes).length = nodes.length) : nodes.Nodup := by
  induction nodes with
  | nil => exact List.nodup_nil
  | cons node nodes ih =>
    rw [unique, List.eraseDups_cons, List.length_cons, List.length_cons,
      Nat.add_right_cancel_iff] at same
    -- No other node was dropped, neither with the first one nor after it.
    have shorter := List.length_filter_le (fun other => !other == node) nodes
    have rest := length_unique_le (nodes.filter fun other => !other == node)
    rw [unique, same] at rest
    have kept := List.length_filter_eq_length_iff.mp (Nat.le_antisymm shorter rest)
    rw [List.filter_eq_self.mpr kept] at same
    refine List.nodup_cons.mpr ⟨fun member => ?_, ih same⟩
    simpa using kept node member

theorem fromSeed_duplicates {producers : Nat → List Nat} {nodes : List Nat}
    (repeated : ¬nodes.Nodup) (seed : List Nat) :
    fromSeed producers nodes seed = .error .duplicateNodes := by
  have shorter : ¬(unique nodes).length = nodes.length :=
    mt (nodup_of_length_unique nodes) repeated
  simp [fromSeed, shorter]

section Seed

variable {producers : Nat → List Nat} {nodes seed : List Nat} (distinct : nodes.Nodup)

include distinct

theorem fromSeed_inside (inside : ∀ id ∈ seed, id ∈ nodes) :
    fromSeed producers nodes seed = .ok (walk producers nodes [] [] (seed.map .enter)) := by
  have all : seed.all nodes.contains = true := by simpa using inside
  simp [fromSeed, unique_of_nodup nodes distinct, all]

theorem fromSeed_outside {id : Nat} (seeded : id ∈ seed) (outside : id ∉ nodes) :
    fromSeed producers nodes seed = .error .seedOutside := by
  have some' : seed.all nodes.contains = false := by
    rw [List.all_eq_false]
    exact ⟨id, seeded, by simpa using outside⟩
  simp [fromSeed, unique_of_nodup nodes distinct, some']

end Seed

/-- All the nodes once each, after their producers among them. -/
structure IsOrder (producers : Nat → List Nat) (nodes order : List Nat) : Prop where
  nodup : order.Nodup
  mem_iff : ∀ v, v ∈ order ↔ v ∈ nodes
  producersFirst : ∀ front v back, order = front ++ v :: back →
    ∀ p ∈ producers v, p ∈ nodes → p ∈ front

section Topological

variable {producers : Nat → List Nat} {nodes : List Nat}

/-- From a node one comes to ever larger readers, so in the end to one that no node reads. -/
theorem mem_of_closed (descending : ∀ v ∈ nodes, ∀ p ∈ producers v, p < v) (reached : List Nat)
    (sinksReached : ∀ v ∈ sinks producers nodes, v ∈ reached)
    (closed : ∀ p ∈ nodes, ∀ v ∈ reached, p ∈ producers v → p ∈ reached)
    (v : Nat) (member : v ∈ nodes) : v ∈ reached := by
  have bounded : ∀ u ∈ nodes, u ≤ nodes.sum := fun u inside => List.le_sum_of_mem inside
  induction distance : nodes.sum - v using Nat.strongRecOn generalizing v with
  | ind distance ih =>
    by_cases read : v ∈ nodes.flatMap producers
    · obtain ⟨u, inside, reads⟩ := List.mem_flatMap.mp read
      have above := descending u inside v reads
      have limit := bounded u inside
      exact closed v member u (ih (nodes.sum - u) (by omega) u inside rfl) reads
    · refine sinksReached v (List.mem_filter.mpr ⟨member, ?_⟩)
      simpa using read

theorem topological_eq (order : List Nat) (sorted : topological producers nodes = .ok order) :
    order = walk producers nodes [] [] ((sinks producers nodes).map .enter) := by
  unfold topological fromSeed at sorted
  split at sorted
  · cases sorted
  · split at sorted
    · cases sorted
    · exact (Except.ok.inj sorted).symm

private theorem walk_congr (producers' : Nat → List Nat)
    (same : ∀ v ∈ nodes, producers v = producers' v) (visited ordered : List Nat)
    (stack : List Task) :
    walk producers nodes visited ordered stack = walk producers' nodes visited ordered stack := by
  fun_induction walk producers nodes visited ordered stack with
  | case1 visited ordered => rw [walk]
  | case2 visited ordered node stack ih => rw [walk, ih]
  | case3 visited ordered node stack done ih => rw [walk, if_pos done, ih]
  | case4 visited ordered node stack fresh ih =>
    have member : node ∈ nodes := by
      have entered : node ∉ visited ∧ node ∈ nodes := by simpa using fresh
      exact entered.2
    rw [walk, if_neg fresh, ih, same node member]

/-- The order depends on the producers of members only. -/
theorem topological_congr (producers' : Nat → List Nat)
    (same : ∀ v ∈ nodes, producers v = producers' v) :
    topological producers nodes = topological producers' nodes := by
  have read : nodes.flatMap producers = nodes.flatMap producers' := List.flatMap_congr same
  have seeds : sinks producers nodes = sinks producers' nodes := by rw [sinks, read, sinks]
  rw [topological, seeds, fromSeed, walk_congr producers' same, ← fromSeed, ← topological]

theorem nodup_of_topological (order : List Nat)
    (sorted : topological producers nodes = .ok order) : nodes.Nodup := by
  unfold topological fromSeed at sorted
  split at sorted
  · cases sorted
  next same => exact nodup_of_length_unique nodes (by simpa using same)

/-- An order holds members only, each at most once. -/
theorem topological_mem (order : List Nat) (sorted : topological producers nodes = .ok order) :
    order.Nodup ∧ ∀ v ∈ order, v ∈ nodes := by
  obtain ⟨visited, ordered, walked, result, -⟩ :=
    walk_eq (Walked.start producers nodes (sinks producers nodes))
  rw [topological_eq order sorted, result]
  refine ⟨List.nodup_reverse.mpr (by simpa using walked.nodup), fun v member => ?_⟩
  exact walked.inside v ((walked.entered v).mpr (by simpa using member))

private theorem before_of_beforeProducers (earlier : List Nat) (later : List Nat) (v : Nat)
    (sorted : BeforeProducers producers nodes (later ++ v :: earlier)) :
    ∀ p ∈ producers v, p ∈ nodes → p ∈ earlier := by
  induction later with
  | nil => exact sorted.1
  | cons node later ih => exact ih sorted.2

/-- What a walk collects: members once each, with the seed and closed under producers. -/
structure IsClosure (producers : Nat → List Nat) (nodes seed order : List Nat) : Prop where
  nodup : order.Nodup
  inside : ∀ v ∈ order, v ∈ nodes
  seeded : ∀ s ∈ seed, s ∈ nodes → s ∈ order
  closed : ∀ v ∈ order, ∀ p ∈ producers v, p ∈ nodes → p ∈ order
  producersFirst : ∀ front v back, order = front ++ v :: back →
    ∀ p ∈ producers v, p ∈ nodes → p ∈ front

theorem isClosure_walk (descending : ∀ v ∈ nodes, ∀ p ∈ producers v, p < v) (seed : List Nat) :
    IsClosure producers nodes seed (walk producers nodes [] [] (seed.map .enter)) := by
  obtain ⟨visited, ordered, walked, result, sorts⟩ := walk_eq (Walked.start producers nodes seed)
  have entered (v : Nat) : v ∈ visited ↔ v ∈ ordered.reverse := by simpa using walked.entered v
  rw [result]
  constructor
  · simpa using walked.nodup
  · exact fun v member => walked.inside v ((entered v).mpr member)
  · -- The stack is empty, so what is wanted is entered.
    intro s seeded member
    exact (entered s).mp ((walked.wanted s member (Or.inl seeded)).resolve_right (by simp))
  · intro v collected p reads member
    have wanted := walked.wanted p member (Or.inr ⟨v, (entered v).mpr collected, reads⟩)
    exact (entered p).mp (wanted.resolve_right (by simp))
  · intro front v back split p reads held
    have reversed : ordered = back.reverse ++ v :: front.reverse := by
      rw [← List.reverse_reverse ordered, split]
      simp
    have before := before_of_beforeProducers front.reverse back.reverse v
      (reversed ▸ sorts descending (Stacked.start _) trivial) p reads held
    simpa using before

/-- Distinct nodes that are numbered after their producers have an order. -/
theorem isOrder_topological (distinct : nodes.Nodup)
    (descending : ∀ v ∈ nodes, ∀ p ∈ producers v, p < v) :
    ∃ order, topological producers nodes = .ok order ∧ IsOrder producers nodes order := by
  have inside : ∀ s ∈ sinks producers nodes, s ∈ nodes :=
    fun s sink => (List.mem_filter.mp sink).1
  have closure := isClosure_walk descending (sinks producers nodes)
  refine ⟨_, fromSeed_inside distinct inside, closure.nodup, fun v => ⟨closure.inside v, ?_⟩,
    closure.producersFirst⟩
  exact mem_of_closed descending _ (fun s sink => closure.seeded s sink (inside s sink))
    (fun p member v collected reads => closure.closed v collected p reads member) v

end Topological

end OpGraph.Traversal
