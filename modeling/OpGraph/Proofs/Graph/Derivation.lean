import OpGraph.Proofs.Graph.Evolution

/-!
# Types as the structure gives them

The types of a node can be read off its operator and what it reads, with nothing said about when
nodes were resolved (`Infers`). In a store that came about by steps all known types are of this
kind (`IsDerived.evolves`), so nodes of one structure, be it in two stores, can only get the same
types (`Infers.unique`).
-/
namespace OpGraph.Store

/-- The types that the structure of a node gives. -/
inductive Infers (store : Store) : Nat → List TensorType → Prop
  | parameter {id : Nat} {type : TensorType} (found : (store.find? id).isSome = true)
      (declared : store.operator id = .parameter type) : Infers store id [type]
  | operation {id : Nat} {inputs types : List TensorType} (found : (store.find? id).isSome = true)
      (operation : store.isParameter id = false) (given : Nat → List TensorType)
      (reads : ∀ p ∈ store.producers id, Infers store p (given p))
      (first : List.Forall₂ (fun p type => typeAt (given p) 0 = .ok type) (store.producers id)
        inputs)
      (accepted : (store.operator id).infer inputs = .ok types) : Infers store id types

/-- Nodes that read the same have the same types, in whichever stores they are. -/
structure SameStructure (store other : Store) (same : Nat → Nat → Prop) : Prop where
  operator : ∀ a b, same a b → store.operator a = other.operator b
  producers : ∀ a b, same a b → List.Forall₂ same (store.producers a) (other.producers b)

section Uniqueness

variable {store other : Store} {same : Nat → Nat → Prop}

private theorem inputs_unique {given given' : Nat → List TensorType} {ps qs : List Nat}
    {inputs inputs' : List TensorType} (paired : List.Forall₂ same ps qs)
    (agree : ∀ p ∈ ps, ∀ q ∈ qs, same p q → given p = given' q)
    (first : List.Forall₂ (fun p type => typeAt (given p) 0 = .ok type) ps inputs)
    (first' : List.Forall₂ (fun q type => typeAt (given' q) 0 = .ok type) qs inputs') :
    inputs = inputs' := by
  induction paired generalizing inputs inputs' with
  | nil =>
    cases first
    cases first'
    rfl
  | @cons p q ps qs here _ ih =>
    cases first with
    | @cons _ type _ inputs output outputs =>
      cases first' with
      | @cons _ type' _ inputs' output' outputs' =>
        rw [agree p (by simp) q (by simp) here, output'] at output
        have rest := ih (fun p member q member' => agree p (by simp [member]) q (by simp [member']))
          outputs outputs'
        rw [Except.ok.inj output, rest]

theorem Infers.unique (matching : SameStructure store other same) {a b : Nat}
    {types types' : List TensorType} (derived : store.Infers a types) (paired : same a b)
    (derived' : other.Infers b types') : types = types' := by
  -- Along the first derivation: what it reads was derived before, and so has the same types in
  -- the other store.
  induction derived generalizing b types' with
  | @parameter a type found declared =>
    have operator := matching.operator a b paired
    cases derived' with
    | parameter found' declared' =>
      rw [declared, declared'] at operator
      cases operator
      rfl
    | operation found' operation =>
      rw [isParameter, ← operator, declared] at operation
      cases operation
  | @operation a inputs types found operation given reads first accepted ih =>
    have operator := matching.operator a b paired
    cases derived' with
    | parameter found' declared' =>
      rw [isParameter, operator, declared'] at operation
      cases operation
    | @operation _ inputs' _ found' operation' given' reads' first' accepted' =>
      have agree : ∀ p ∈ store.producers a, ∀ q ∈ other.producers b, same p q →
          given p = given' q :=
        fun p read q read' here => ih p read here (reads' q read')
      have inputs := inputs_unique (matching.producers a b paired) agree first first'
      rw [operator, inputs, accepted'] at accepted
      exact (Except.ok.inj accepted).symm

end Uniqueness

/-! ### Derivations in a changing store -/

variable {store later : Store}

theorem Infers.keeps (keeps : store.Keeps later) {id : Nat} {types : List TensorType}
    (derived : store.Infers id types) : later.Infers id types := by
  induction derived with
  | @parameter id type found declared =>
    obtain ⟨found', becomes⟩ := keeps.becomes found
    exact .parameter found' (becomes.operator.trans declared)
  | @operation id inputs types found operation given reads first accepted ih =>
    obtain ⟨found', becomes⟩ := keeps.becomes found
    have producers : later.producers id = store.producers id := becomes.producers
    refine @Infers.operation later id inputs types found' ?_ given ?_ ?_ ?_
    · rw [keeps.isParameter found, operation]
    · rw [producers]
      exact ih
    · rw [producers]
      exact first
    · rw [Store.operator, becomes.operator]
      exact accepted

/-- What is derived later of a node that was there could be derived before. -/
theorem Infers.of_keeps (grounded : store.IsGrounded) (keeps : store.Keeps later) {id : Nat}
    {types : List TensorType} (derived : later.Infers id types)
    (found : (store.find? id).isSome = true) : store.Infers id types := by
  induction derived with
  | @parameter id type _ declared =>
    exact .parameter found ((keeps.becomes found).2.operator.symm.trans declared)
  | @operation id inputs types _ operation given reads first accepted ih =>
    have becomes := (keeps.becomes found).2
    have producers : later.producers id = store.producers id := becomes.producers
    have operator : later.operator id = store.operator id := becomes.operator
    rw [producers] at reads ih first
    refine .operation found ?_ given (fun p read => ?_) first (operator ▸ accepted)
    · rw [← keeps.isParameter found, operation]
    · exact ih p read (grounded.producers id p read).2

/-- All types known are those that the structure gives. -/
def IsDerived (store : Store) : Prop :=
  ∀ id types, (store.node id).types = some types → store.Infers id types

theorem isDerived_empty : empty.IsDerived := by
  intro id types typed
  rw [node_empty] at typed
  cases typed

theorem IsDerived.create (derived : store.IsDerived) (operator : Operator)
    (producers : List Nat) (name : Option String) :
    (store.create operator producers name).1.IsDerived := by
  intro id types typed
  have found := found_of_types typed
  have keeps := (store.extends_create operator producers name).keeps
  rcases store.node_create operator producers name id with new | old
  · -- A new node has types only if it is a parameter.
    rw [new] at typed
    cases operator with
    | parameter type =>
      cases typed
      exact .parameter found (by rw [Store.operator, new])
    | _ => cases typed
  · rw [old] at typed
    exact (derived id types typed).keeps keeps

/-- A node is resolved to what its structure gives. -/
theorem IsDerived.infers (derived : store.IsDerived) {id : Nat}
    (found : (store.find? id).isSome = true) {types : List TensorType}
    (resolves : store.Resolves id types) : store.Infers id types := by
  obtain ⟨inputs, given, accepted⟩ := computeTypes_eq_ok.mp resolves.computed
  obtain ⟨resolved, outputs⟩ := inputTypes_eq_ok.mp given
  refine .operation found resolves.operation (fun p => ((store.node p).types).getD []) ?_ ?_
    accepted
  · intro p read
    obtain ⟨known, typed⟩ := Option.isSome_iff_exists.mp (resolved p read)
    rw [typed]
    exact derived p known typed
  · refine outputs.imp fun p type output => ?_
    simp only [outputType, Outcome.bind_eq_ok, outputTypes_eq_ok] at output
    obtain ⟨known, typed, first⟩ := output
    rw [typed]
    exact first

theorem IsDerived.resolve (derived : store.IsDerived) {id : Nat} {types : List TensorType}
    (resolves : store.Resolves id types) : (store.setTypes id types).IsDerived := by
  have keeps := keeps_setTypes types resolves.unresolved
  intro other types' typed
  by_cases same : other = id
  · subst same
    have found := found_of_types typed
    rw [isSome_find?_setTypes] at found
    obtain ⟨node, held⟩ := Option.isSome_iff_exists.mp found
    rw [node_of_find? _ _ _ (store.find?_setTypes_self other types node held)] at typed
    cases typed
    exact (derived.infers found resolves).keeps keeps
  · rw [node_setTypes_of_ne store id other types same] at typed
    exact (derived other types' typed).keeps keeps

/-- What becomes of one store in two ways has the structure of the nodes it began with. -/
theorem IsGrounded.sameStructure (grounded : store.IsGrounded) {other : Store}
    (keeps : store.Keeps later) (keeps' : store.Keeps other) :
    SameStructure later other fun a b => a = b ∧ (store.find? a).isSome = true := by
  constructor
  · rintro id _ ⟨rfl, found⟩
    exact (keeps.becomes found).2.operator.trans (keeps'.becomes found).2.operator.symm
  · rintro id _ ⟨rfl, found⟩
    have producers : later.producers id = store.producers id := (keeps.becomes found).2.producers
    have producers' : other.producers id = store.producers id := (keeps'.becomes found).2.producers
    rw [producers, producers', List.forall₂_same]
    intro p read
    obtain ⟨node, held⟩ := Option.isSome_iff_exists.mp found
    rw [Store.producers, node_of_find? _ _ _ held] at read
    exact ⟨rfl, (grounded.reads id node held p read).2⟩

theorem IsDerived.evolves (derived : store.IsDerived) (evolves : store.Evolves later) :
    later.IsDerived := by
  refine evolves.preserves (fun store later step held => ?_) derived
  cases step with
  | create operator name reads => exact held.create operator _ name
  | resolve resolves => exact held.resolve resolves

end OpGraph.Store
