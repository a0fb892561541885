import OpGraph.Proofs.Operator.Stages.Convolution
import OpGraph.Proofs.Operator.Stages.Slicing

/-!
# Stages of checks

Every operator makes its checks in the same stages, one after another, and so reports a violation of
the earliest stage that has one (`IsLibrary.infer_reports_earliest`). A message is written before its
check is made, which fails where a number in it is too long.
-/
namespace OpGraph

/-! ### Products -/

namespace Dot

theorem reportsFirst_checkRank (position : Nat) (shape : Shape) :
    ReportsFirst kind {stage | shape.isShort = false ∧ stage = .inputRanks}
      (fun v => shape.rank.Differ (.static 2) ∧ v = .argumentRank position shape)
      (checkRank position shape) := by
  have written : (Violation.argumentRank position shape).isShort = shape.isShort := by
    simp [Violation.isShort, Violation.phrases, Phrase.isShort]
  have ranked := ReportsFirst.require kind (.argumentRank position shape)
    (Dimension.compatible_eq_false (a := shape.rank) (b := .static 2))
  rwa [written] at ranked

/-- Only matrices have inner dimensions that are known. -/
theorem differ_dims (a b : Shape) : (dims a).2.Differ (dims b).1 ↔
    ∃ rows inner inner' columns, a = .ranked [rows, inner] ∧ b = .ranked [inner', columns] ∧
      inner.Differ inner' := by
  constructor
  · intro apart
    unfold dims at apart
    split at apart
    · split at apart
      · exact ⟨_, _, _, _, rfl, rfl, apart⟩
      · obtain ⟨_, _, -, known, -⟩ := apart
        cases known
    · obtain ⟨_, _, known, -⟩ := apart
      cases known
  · rintro ⟨rows, inner, inner', columns, rfl, rfl, apart⟩
    exact apart

theorem violates_iff (a b : TensorType) (v : Violation) :
    Operator.Violates .dot [a, b] v ↔
      a.shape.rank.Differ (.static 2) ∧ v = .argumentRank 0 a.shape ∨
      b.shape.rank.Differ (.static 2) ∧ v = .argumentRank 1 b.shape ∨
      a.etype.Differ b.etype ∧ v = .argumentElements a.etype b.etype ∨
      (dims a.shape).2.Differ (dims b.shape).1 ∧ v = .reduction a.shape b.shape := by
  rw [differ_dims]
  constructor
  · intro found
    cases found with
    | count takes wrong =>
      cases takes
      exact absurd rfl wrong
    | factorRank position known wrong =>
      rcases position with _ | _ | position
      · cases known
        exact .inl ⟨wrong, rfl⟩
      · cases known
        exact .inr (.inl ⟨wrong, rfl⟩)
      · simp at known
    | factorElements apart => exact .inr (.inr (.inl ⟨apart, rfl⟩))
    | reduction matrix matrix' apart =>
      exact .inr (.inr (.inr ⟨⟨_, _, _, _, matrix, matrix', apart⟩, rfl⟩))
  · rintro (⟨wrong, rfl⟩ | ⟨wrong, rfl⟩ | ⟨apart, rfl⟩ |
      ⟨⟨_, _, _, _, matrix, matrix', apart⟩, rfl⟩)
    · exact .factorRank 0 rfl wrong
    · exact .factorRank 1 rfl wrong
    · exact .factorElements apart
    · exact .reduction matrix matrix' apart

/-- What is too long in a product: the shapes of its factors. -/
theorem overlong_eq (a b : TensorType) :
    {stage | Operator.Overlong .dot [a, b] stage} =
      {stage | a.isShort = false ∧ stage = .inputRanks} ∪
        {stage | b.isShort = false ∧ stage = .inputRanks} := by
  ext stage
  constructor
  · intro long
    cases long with
    | factors many => exact many.imp (fun many => ⟨many, rfl⟩) fun many => ⟨many, rfl⟩
    | window many => cases many
  · rintro (⟨many, rfl⟩ | ⟨many, rfl⟩)
    · exact .factors (.inl many)
    · exact .factors (.inr many)

theorem reportsFirst_infer (inputs : List TensorType) :
    ReportsFirst kind {stage | Operator.Overlong .dot inputs stage} (Operator.Violates .dot inputs)
      (infer inputs) := by
  unfold infer
  split
  next a b =>
    refine .congr _ ?_ (overlong_eq a b).symm fun v => (violates_iff a b v).symm
    refine (reportsFirst_checkRank 0 a.shape).bind (fun _ ranked => ?_) ?_ ?_ ?_
    · refine (reportsFirst_checkRank 1 b.shape).bind_plain (fun _ ranked' => ?_) ?_ ?_
      · have short := (checkRank_eq_ok.mp ranked).1
        have short' := (checkRank_eq_ok.mp ranked').1
        have written : (Violation.reduction a.shape b.shape).isShort = true := by
          simp [Violation.isShort, Violation.phrases, Phrase.isShort, short, short']
        refine (ReportsFirst.requireElements _ _ _).bind_plain (fun etype _ => ?_) ?_
          fun _ many => many.elim
        · exact (ReportsFirst.require_short written Dimension.isSome_merge_eq_false).bind_ok
            fun _ _ => ⟨_, rfl⟩
        · rintro _ _ ⟨-, rfl⟩ ⟨-, rfl⟩
          exact Violation.turn_lt_of_stage (by simp)
      · rintro _ _ ⟨-, rfl⟩ (⟨-, rfl⟩ | ⟨-, rfl⟩) <;>
          exact Violation.turn_lt_of_stage (by simp)
      · rintro _ ⟨-, rfl⟩ _ (⟨-, rfl⟩ | ⟨-, rfl⟩) <;>
          simp
    · rintro _ _ ⟨-, rfl⟩ (⟨-, rfl⟩ | ⟨-, rfl⟩ | ⟨-, rfl⟩) <;>
        simp
    · rintro _ ⟨-, rfl⟩ _ ⟨-, rfl⟩
      simp
    · rintro _ ⟨-, rfl⟩ _ (⟨-, rfl⟩ | ⟨-, rfl⟩ | ⟨-, rfl⟩) <;>
        simp
  next other =>
    refine Operator.reportsFirst_count rfl fun two => ?_
    obtain ⟨a, b, rfl⟩ := List.length_eq_two.mp two
    exact other a b rfl

end Dot

/-! ### All operators -/

namespace Operator

/-- The operators of the library, with integers for attributes. A parameter has none. -/
def IsLibrary (operator : Operator) : Prop :=
  operator.IsIntegral ∨ operator.isParameter = true

variable {operator : Operator} {inputs : List TensorType}

/-- Inference reports what is first to be found, unless a message before is too long. -/
theorem IsLibrary.reportsFirst (library : operator.IsLibrary) (inputs : List TensorType) :
    ReportsFirst operator.kind {stage | operator.Overlong inputs stage} (operator.Violates inputs)
      (operator.infer inputs) := by
  rcases library with integral | isParameter
  · cases integral with
    | convolution strides dilations below above format =>
      rcases inputs with _ | ⟨data, _ | ⟨filters, _ | ⟨extra, rest⟩⟩⟩
      case cons.cons.nil => exact Convolution.reportsFirst_infer rfl data filters
      all_goals exact reportsFirst_count rfl (by simp)
    | replaceSlice lower upper strides =>
      exact ReplaceSlice.reportsFirst_infer lower upper strides inputs
    | slice lower upper strides => exact Slice.reportsFirst_infer lower upper strides inputs
    | dot => exact Dot.reportsFirst_infer inputs
  · cases operator with
    | parameter type =>
      cases inputs with
      | nil =>
        refine .passed _ (fun v found => ?_) fun stage long => ?_
        · cases found with
          | count takes wrong =>
            cases takes
            exact wrong rfl
        · cases long with
          | window many => cases many
      | cons input inputs => exact reportsFirst_count rfl (by simp)
    | _ => cases isParameter

/-- The same checks fail for two operators on their inputs, up to a stage. -/
def FailsAlike (operator : Operator) (inputs : List TensorType) (operator' : Operator)
    (inputs' : List TensorType) (stage : Stage) : Prop :=
  ∀ turn, (∃ v, operator.Violates inputs v ∧ v.stage.index ≤ stage.index ∧ v.turn = turn) ↔
    ∃ v, operator'.Violates inputs' v ∧ v.stage.index ≤ stage.index ∧ v.turn = turn

/-- Inference fails just when something is wrong or a message is too long. It reports a violation of
the earliest stage in which anything is, unless it has to write a number of too many digits in a
stage that is no later. Nothing that is right or wrong in later stages has a part in it. -/
theorem IsLibrary.infer_reports_earliest (library : operator.IsLibrary)
    (inputs : List TensorType) :
    ((∃ types, operator.infer inputs = .ok types) ↔
      (∀ v, ¬operator.Violates inputs v) ∧ ∀ stage, ¬operator.Overlong inputs stage) ∧
    (∀ failure, operator.infer inputs = .error failure →
      (∃ v, failure = .invalid operator.kind none v ∧ operator.Violates inputs v ∧
        (∀ v', operator.Violates inputs v' → v.stage.index ≤ v'.stage.index) ∧
        ∀ stage, operator.Overlong inputs stage → v.stage.index ≤ stage.index) ∨
      failure = .numberTooLong ∧ ∃ stage, operator.Overlong inputs stage ∧
        ∀ v, operator.Violates inputs v → stage.index ≤ v.stage.index) ∧
    ∀ (operator' : Operator) (inputs' : List TensorType) (v : Violation), operator'.IsLibrary →
      (∀ stage, operator'.Overlong inputs' stage → v.stage.index < stage.index) →
      operator.infer inputs = .error (.invalid operator.kind none v) →
      operator.FailsAlike inputs operator' inputs' v.stage →
      ∃ v', operator'.infer inputs' = .error (.invalid operator'.kind none v') ∧
        v'.turn = v.turn ∧ (operator'.Violates inputs' v → v' = v) := by
  have outcome := (library.reportsFirst inputs).outcome
  refine ⟨⟨?_, ?_⟩, ?_, ?_⟩
  · rintro ⟨types, accepted⟩
    rw [accepted] at outcome
    rcases outcome with ⟨-, nothing, written⟩ | ⟨v, ⟨⟩, -⟩ | ⟨⟨⟩, -⟩
    exact ⟨nothing, written⟩
  · rintro ⟨nothing, short⟩
    rcases outcome with ⟨accepted, -⟩ | ⟨v, -, here, -⟩ | ⟨-, stage, long, -⟩
    · exact accepted
    · exact absurd here (nothing v)
    · exact absurd long (short stage)
  · intro failure refused
    rw [refused] at outcome
    rcases outcome with ⟨⟨_, ⟨⟩⟩, -⟩ | ⟨v, same, here, first, before⟩ | ⟨same, stage, long, before⟩
    · refine .inl ⟨v, Except.error.inj same, here, fun v' found => ?_, before⟩
      exact Violation.stage_le_of_turn
        ((first v' found).imp_left fun same => (congrArg Violation.turn same).symm)
    · exact .inr ⟨Except.error.inj same, stage, long, before⟩
  · intro operator' inputs' v library' short refused alike
    rw [refused] at outcome
    rcases outcome with ⟨⟨_, ⟨⟩⟩, -⟩ | ⟨_, ⟨⟩, here, first, -⟩ | ⟨⟨⟩, -⟩
    -- The first thing found fails for both, and nothing before it for either.
    obtain ⟨u, found, upTo, turn⟩ := (alike v.turn).mp ⟨v, here, Nat.le_refl _, rfl⟩
    rcases (library'.reportsFirst inputs').outcome with
      ⟨-, nothing, -⟩ | ⟨v', refused', here', first', -⟩ | ⟨-, stage, long, before⟩
    · exact absurd found (nothing u)
    · have upTo : v'.turn = v.turn ∨ v'.turn < v.turn :=
        turn ▸ (first' u found).imp_left fun same => (congrArg Violation.turn same).symm
      obtain ⟨u', found', -, turn'⟩ :=
        (alike v'.turn).mpr ⟨v', here', Violation.stage_le_of_turn upTo, rfl⟩
      have downTo : v.turn = v'.turn ∨ v.turn < v'.turn :=
        turn' ▸ (first u' found').imp_left fun same => (congrArg Violation.turn same).symm
      have same : v'.turn = v.turn := by
        rcases upTo with same | before
        · exact same
        · exact (downTo.resolve_right (List.lt_asymm before)).symm
      refine ⟨v', refused', same, fun found => ?_⟩
      rcases first' v found with same' | before
      · exact same'.symm
      · exact absurd before (same ▸ List.lt_irrefl _)
    · exact absurd (Nat.le_trans (before u found) upTo) (Nat.not_le.mpr (short stage long))

/-- Bounds that are not in order are reported whether or not the rank is that of the bounds. -/
theorem IsLibrary.infer_reports_earliest_bounds :
    let operator : Operator := .slice (.ofInts [2] [1] [1])
    let deep : TensorType := ⟨.ranked [.static 1, .static 1], .float32⟩
    let flat : TensorType := ⟨.ranked [.static 1], .float32⟩
    operator.Violates [deep] (.sliceRank (.ofInts [2] [1] [1]) deep.shape) ∧
      operator.infer [deep] =
        .error (.invalid "Slice" none (.lowerAboveUpper 0 (.ofInts [2] [1] [1]))) ∧
      operator.infer [flat] =
        .error (.invalid "Slice" none (.lowerAboveUpper 0 (.ofInts [2] [1] [1]))) := by
  intro operator deep flat
  have library : operator.IsLibrary := .inl (.slice _ _ _)
  have short (stage : Stage) : ¬operator.Overlong [flat] stage := by
    have bounds : (SliceBounds.ofInts [2] [1] [1]).isShort = true := by decide
    have shape : flat.isShort = true := by decide
    intro long
    have window : OverlongWindow (.slice (.ofInts [2] [1] [1])) [flat] :=
      long.window_of_short bounds (by rw [List.all_cons, shape]; rfl)
    cases window
  have unordered (input : TensorType) :
      operator.Violates [input] (.lowerAboveUpper 0 (.ofInts [2] [1] [1])) :=
    .slice (@SliceBounds.Finds.axis _ 0 _ _ rfl (.lowerAboveUpper (by decide)))
  have transfer (input input' : TensorType) (turn : List Nat) :
      (∃ v, operator.Violates [input] v ∧ v.stage.index ≤ Stage.attributes.index ∧ v.turn = turn) →
        ∃ v, operator.Violates [input'] v ∧ v.stage.index ≤ Stage.attributes.index ∧
          v.turn = turn := by
    rintro ⟨v, found, upTo, turn⟩
    rcases (Slice.violates_iff _ input v).mp found with found | ⟨-, rfl⟩ | ⟨_, -, rfl⟩
    · exact ⟨v, .slice found, upTo, turn⟩
    · simp at upTo
    · simp at upTo
  have reported : operator.infer [deep] =
      .error (.invalid "Slice" none (.lowerAboveUpper 0 (.ofInts [2] [1] [1]))) := rfl
  obtain ⟨v, refused, -, same⟩ := (library.infer_reports_earliest [deep]).2.2 operator [flat] _
    library (fun stage long => absurd long (short stage)) reported
    fun turn => ⟨transfer deep flat turn, transfer flat deep turn⟩
  refine ⟨.sliceRank ⟨2, 1, rfl, rfl, by decide⟩, reported, ?_⟩
  rwa [same (unordered flat)] at refused

end Operator

end OpGraph
