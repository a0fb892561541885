import OpGraph.Kernel.Setting
import OpGraph.Proofs.Template.Scanning
import OpGraph.Proofs.Writing

/-!
# Maps filled by setters

A call of a setter that fails leaves the map as it was, since it fails before it sets its key
(`eq_of_perform_error`), be it for a number that is too long to be written. So a row of calls does
what the successful ones among them do: each key stands where it was first set and has the text
that it was last set to, and a template was rendered with the map as it stood before its call. Main
statement: this holds after every row of calls, and every key of the map can be rendered
(`run_holds_latest`).
-/
namespace OpGraph

namespace Filling

theorem outcome_bind {α β : Type} (step : Filling α) (next : α → Filling β)
    (subs : Substitutions) :
    outcome (step >>= next) subs =
      match outcome step subs with
      | (.ok value, between) => outcome (next value) between
      | (.error failure, between) => (.error failure, between) := by
  simp only [outcome, ExceptT.run_bind, StateT.run_bind, Id.run_bind]
  rcases (StateT.run (ExceptT.run step) subs).run with ⟨_ | _, between⟩ <;> rfl

theorem outcome_read (key : String) (setting : Setting) (subs : Substitutions) :
    outcome (do liftM (setting.write key (← get))) subs = (setting.write key subs, subs) :=
  rfl

theorem outcome_assign (key text : String) (subs : Substitutions) :
    outcome (SetterCall.assign key text) subs =
      if Template.isKey key.toList then (.ok (), ⟨Substitutions.insert key text subs.entries⟩)
      else (.error (.invalidKey key), subs) := by
  unfold SetterCall.assign
  cases Template.isKey key.toList <;> rfl

end Filling

namespace Setting

/-- What a setter writes the things it is given as, while the map stands as it does. Numbers are
written as long as they are short. -/
inductive IsWritten (subs : Substitutions) : Setting → String → Prop
  | shape {lengths : List Nat} (short : ∀ length ∈ lengths, Text.isShort length = true) :
    IsWritten subs (.shape (.ofLengths lengths)) (integerList (lengths.map Int.ofNat))
  | ints {values : Value} {items : List Value} {numbers : List Int}
      (listed : values.items? = some items)
      (read : List.Forall₂ (fun item n => item.toInt = .ok n) items numbers)
      (short : ∀ n ∈ numbers, Text.isShort n = true) :
    IsWritten subs (.ints values) (integerList numbers)
  | integer {n : Int} (short : Text.isShort n = true) :
    IsWritten subs (.integer (.int n)) (toString n)
  | text (text : String) : IsWritten subs (.text (.text text)) text
  | member (text : String) : IsWritten subs (.member (.text text)) text
  | template {source text : String} (rendered : subs.render source = .ok text) :
    IsWritten subs (.template (.text source)) text

theorem plainText_eq_ok {key text : String} {value : Value} :
    plainText key value = .ok text ↔ value = .text text := by
  cases value <;> simp [plainText]

theorem writeIntegers_eq_ok {numbers : List Int} {text : String} :
    writeIntegers numbers = .ok text ↔
      (∀ n ∈ numbers, Text.isShort n = true) ∧ integerList numbers = text := by
  rw [writeIntegers_eq, writeWhen_eq_ok_iff, List.all_eq_true]

theorem vectorText_eq_ok {values : Value} {text : String} :
    vectorText values = .ok text ↔ ∃ items numbers, values.items? = some items ∧
      List.Forall₂ (fun item n => item.toInt = .ok n) items numbers ∧
        writeIntegers numbers = .ok text := by
  unfold vectorText writeIntegers
  cases values.items? with
  | none => simp
  | some items =>
    simp only [Outcome.bind_eq_ok, Outcome.mapM_bind_eq_ok, Outcome.pure_eq_ok, Option.some.injEq]
    constructor
    · rintro ⟨texts, ⟨numbers, read, written⟩, rfl⟩
      exact ⟨items, numbers, rfl, read, texts, written, rfl⟩
    · rintro ⟨_, numbers, rfl, read, texts, written, rfl⟩
      exact ⟨texts, ⟨numbers, read, written⟩, rfl⟩

theorem write_eq_ok (key : String) {subs : Substitutions} {setting : Setting} {text : String} :
    setting.write key subs = .ok text ↔ setting.IsWritten subs text := by
  constructor
  · intro written
    -- A value of another kind than the setter takes is refused, whatever the map holds.
    cases setting with
    | shape known =>
      obtain ⟨lengths, static, listed⟩ := (Outcome.bind_eq_ok _ _ _).mp written
      obtain rfl := Shape.toLengths_eq_ok.mp static
      obtain ⟨short, rfl⟩ := writeIntegers_eq_ok.mp listed
      exact .shape fun length member => short length (List.mem_map_of_mem member)
    | ints values =>
      obtain ⟨items, numbers, listed, read, written⟩ := vectorText_eq_ok.mp written
      obtain ⟨short, rfl⟩ := writeIntegers_eq_ok.mp written
      exact .ints listed read short
    | integer value =>
      cases value with
      | int n =>
        obtain ⟨short, rfl⟩ := writeWhen_eq_ok_iff.mp written
        exact .integer short
      | _ => simp [write] at written
    | text value =>
      obtain rfl := plainText_eq_ok.mp written
      exact .text text
    | member value =>
      obtain rfl := plainText_eq_ok.mp written
      exact .member text
    | template value =>
      cases value with
      | text source => exact .template written
      | _ => cases written
  · intro written
    cases written with
    | shape short =>
      rw [write, Shape.toLengths_ofLengths, Outcome.ok_bind, writeIntegers_eq_ok]
      exact ⟨List.forall_mem_map.mpr short, rfl⟩
    | ints listed read short =>
      exact vectorText_eq_ok.mpr ⟨_, _, listed, read, writeIntegers_eq_ok.mpr ⟨short, rfl⟩⟩
    | integer short => exact writeWhen_of_short _ short
    | template rendered => exact rendered
    | _ => rfl

theorem IsWritten.unique {subs : Substitutions} {setting : Setting} {text text' : String}
    (written : setting.IsWritten subs text) (written' : setting.IsWritten subs text') :
    text = text' :=
  Except.ok.inj (((write_eq_ok "").mpr written).symm.trans ((write_eq_ok "").mpr written'))

end Setting

namespace SetterCall

variable {call : SetterCall} {subs : Substitutions}

/-- A call writes its text first, then looks at its key, and sets it last. -/
theorem perform_eq (call : SetterCall) (subs : Substitutions) :
    call.perform subs =
      match call.setting.write call.key subs with
      | .error failure => (.error failure, subs)
      | .ok text =>
        if Template.isKey call.key.toList then
          (.ok (), ⟨Substitutions.insert call.key text subs.entries⟩)
        else (.error (.invalidKey call.key), subs) := by
  have stepwise : call.steps = (do liftM (call.setting.write call.key (← get))) >>=
      SetterCall.assign call.key := rfl
  rw [perform, stepwise, Filling.outcome_bind, Filling.outcome_read]
  cases call.setting.write call.key subs with
  | error failure => rfl
  | ok text => exact Filling.outcome_assign call.key text subs

/-- A call that fails has changed nothing. -/
theorem eq_of_perform_error {failure : Failure} {next : Substitutions}
    (failed : call.perform subs = (.error failure, next)) : next = subs := by
  rw [perform_eq] at failed
  split at failed
  · cases failed
    rfl
  · split at failed
    · cases failed
    · cases failed
      rfl

theorem perform_eq_ok {next : Substitutions} :
    call.perform subs = (.ok (), next) ↔ Template.isKey call.key.toList = true ∧
      ∃ text, call.setting.IsWritten subs text ∧
        next = ⟨Substitutions.insert call.key text subs.entries⟩ := by
  simp only [perform_eq, ← Setting.write_eq_ok call.key]
  cases call.setting.write call.key subs with
  | error failure => simp
  | ok text =>
    by_cases named : Template.isKey call.key.toList = true <;> simp [named, @eq_comm _ next]

theorem perform_succeeds_iff :
    (call.perform subs).1 = .ok () ↔ Template.isKey call.key.toList = true ∧
      ∃ text, call.setting.IsWritten subs text := by
  constructor
  · intro succeeds
    obtain ⟨named, text, written, -⟩ := perform_eq_ok.mp (Prod.ext succeeds rfl)
    exact ⟨named, text, written⟩
  · rintro ⟨named, text, written⟩
    rw [perform_eq_ok.mpr ⟨named, text, written, rfl⟩]

end SetterCall

namespace Substitutions

/-- What a row of calls sets, one key after the other: a call that fails sets nothing. -/
inductive Sets : Substitutions → List SetterCall → List (String × String) → Prop
  | nothing (subs : Substitutions) : Sets subs [] []
  | set {subs next : Substitutions} {call : SetterCall} {calls : List SetterCall} {text : String}
      {later : List (String × String)} (succeeds : call.perform subs = (.ok (), next))
      (written : call.setting.IsWritten subs text) (rest : Sets next calls later) :
    Sets subs (call :: calls) ((call.key, text) :: later)
  | failed {subs next : Substitutions} {call : SetterCall} {calls : List SetterCall}
      {failure : Failure} {later : List (String × String)}
      (fails : call.perform subs = (.error failure, next)) (rest : Sets next calls later) :
    Sets subs (call :: calls) later

/-- The map has each key at the place where it was first set, with the text that it was last
set to. -/
structure Holds (subs : Substitutions) (sets : List (String × String)) : Prop where
  keys : subs.entries.map Prod.fst = (sets.map Prod.fst).eraseDups
  latest : ∀ key, subs.get? key = sets.reverse.lookup key

theorem map_fst_insert (key text : String) (entries : List (String × String)) :
    (insert key text entries).map Prod.fst =
      if key ∈ entries.map Prod.fst then entries.map Prod.fst
      else entries.map Prod.fst ++ [key] := by
  induction entries with
  | nil => rfl
  | cons entry entries ih =>
    rw [insert]
    by_cases same : entry.1 = key
    · simp [same]
    · simp only [same, if_false, List.map_cons, ih, List.mem_cons, Ne.symm same, false_or]
      split <;> rfl

theorem eraseDups_concat (keys : List String) (key : String) :
    (keys ++ [key]).eraseDups = if key ∈ keys then keys.eraseDups else keys.eraseDups ++ [key] := by
  rw [List.eraseDups_append]
  by_cases among : key ∈ keys <;> simp [List.removeAll, List.eraseDups_cons, among]

theorem Holds.insert {subs : Substitutions} {sets : List (String × String)}
    (holds : subs.Holds sets) (key text : String) :
    Holds ⟨Substitutions.insert key text subs.entries⟩ (sets ++ [(key, text)]) where
  keys := by
    have among : key ∈ (sets.map Prod.fst).eraseDups ↔ key ∈ sets.map Prod.fst := List.mem_eraseDups
    rw [map_fst_insert, holds.keys, List.map_append, List.map_singleton, eraseDups_concat]
    simp only [among]
  latest other := by
    rw [get?_insert, holds.latest, List.reverse_append, List.reverse_singleton,
      List.singleton_append, List.lookup_cons]
    by_cases same : other = key
    · simp [same]
    · rw [beq_eq_false_iff_ne.mpr same, if_neg same]

theorem Holds.run {subs : Substitutions} {calls : List SetterCall}
    {sets later : List (String × String)} (holds : subs.Holds sets) (done : Sets subs calls later) :
    (subs.run calls).Holds (sets ++ later) := by
  -- What was set before grows by one entry with every call that succeeds.
  induction done generalizing sets with
  | nothing subs => rwa [List.append_nil, Substitutions.run]
  | @set subs next call calls text later succeeds written rest ih =>
    obtain ⟨-, text', written', rfl⟩ := SetterCall.perform_eq_ok.mp succeeds
    rw [Substitutions.run, succeeds, List.append_cons, written.unique written']
    exact ih (holds.insert call.key text')
  | @failed subs next call calls failure later fails rest ih =>
    obtain rfl := SetterCall.eq_of_perform_error fails
    rw [Substitutions.run, fails]
    exact ih holds

theorem exists_sets (subs : Substitutions) (calls : List SetterCall) :
    ∃ sets, Sets subs calls sets := by
  induction calls generalizing subs with
  | nil => exact ⟨[], .nothing subs⟩
  | cons call calls ih =>
    -- The calls that follow go on from the map that this one leaves, whether it fails or not.
    obtain ⟨later, rest⟩ := ih (call.perform subs).2
    rcases done : call.perform subs with ⟨failure | _, next⟩
    · rw [done] at rest
      exact ⟨later, .failed done rest⟩
    · rw [done] at rest
      obtain ⟨-, text, written, -⟩ := SetterCall.perform_eq_ok.mp done
      exact ⟨(call.key, text) :: later, .set done written rest⟩

theorem Sets.named {subs : Substitutions} {calls : List SetterCall} {sets : List (String × String)}
    (done : Sets subs calls sets) : ∀ entry ∈ sets, Template.isKey entry.1.toList = true := by
  induction done with
  | nothing subs => exact nofun
  | set succeeds written rest ih =>
    exact List.forall_mem_cons.mpr ⟨(SetterCall.perform_eq_ok.mp succeeds).1, ih⟩
  | failed fails rest ih => exact ih

/-- A placeholder alone is rendered as the text of its key. -/
theorem render_placeholder {subs : Substitutions} {key text : String}
    (named : Template.isKey key.toList = true) (held : subs.get? key = some text) :
    subs.render ("@" ++ key ++ "@") = .ok text := by
  have template : "@" ++ key ++ "@" = Template.written [.hole key] := by
    simp [Template.written, Template.Segment.written]
  rw [render, template, Template.render_written]
  · simp [Template.filled, Template.Segment.filled, held]
  · exact List.forall_mem_singleton.mpr named
  · simp [Template.Segment.known, held]

theorem holds_empty : Holds empty [] where
  keys := rfl
  latest _ := rfl

/-- After any row of calls the map has the keys that were set, in the order in which they were first
set, with the texts that they were last set to. They are keys of templates and can be rendered. The
next call succeeds just when its key is one and what it is given can be written with the map as it
stands, and it changes nothing if it fails. -/
theorem run_holds_latest (calls : List SetterCall) :
    (∃ sets, Sets empty calls sets ∧ (empty.run calls).Holds sets) ∧
      (∀ key text, (empty.run calls).get? key = some text →
        Template.isKey key.toList = true ∧
          (empty.run calls).render ("@" ++ key ++ "@") = .ok text) ∧
      ∀ call : SetterCall,
        ((call.perform (empty.run calls)).1 = .ok () ↔ Template.isKey call.key.toList = true ∧
          ∃ text, call.setting.IsWritten (empty.run calls) text) ∧
        ∀ failure, (call.perform (empty.run calls)).1 = .error failure →
          (call.perform (empty.run calls)).2 = empty.run calls := by
  obtain ⟨sets, done⟩ := exists_sets empty calls
  have holds := holds_empty.run done
  rw [List.nil_append] at holds
  refine ⟨⟨sets, done, holds⟩, fun key text held => ?_, fun call => ⟨?_, fun failure failed => ?_⟩⟩
  · have among : (key, text) ∈ sets := by
      rw [holds.latest, List.lookup_eq_some_iff] at held
      obtain ⟨later, earlier, split, -⟩ := held
      rw [← List.mem_reverse, split]
      simp
    have named := done.named _ among
    exact ⟨named, render_placeholder named held⟩
  · exact SetterCall.perform_succeeds_iff
  · exact SetterCall.eq_of_perform_error (Prod.ext failed rfl)

/-- A key that is rendered into its own text, between calls that fail and one that comes too late
to change it. -/
theorem run_holds_latest_ownKey :
    let calls : List SetterCall :=
      [⟨"pad", .integer (.int 3)⟩, ⟨"index", .template (.text "-@pad@")⟩,
        ⟨"a b", .text (.text "x")⟩, ⟨"pad", .integer (.bool true)⟩,
        ⟨"index", .template (.text "@index@ + KH")⟩,
        ⟨"index", .template (.text "@stride@")⟩, ⟨"pad", .ints (.tuple [.int 4])⟩]
    (empty.run calls).entries = [("pad", "[4]"), ("index", "-3 + KH")] ∧
      (empty.run calls).render "@index@" = .ok "-3 + KH" := by
  intro calls
  have entries : (empty.run calls).entries = [("pad", "[4]"), ("index", "-3 + KH")] := by
    decide +kernel
  obtain ⟨-, rendered, -⟩ := run_holds_latest calls
  have held : (empty.run calls).get? "index" = some "-3 + KH" := by
    rw [get?, entries]
    rfl
  exact ⟨entries, (rendered "index" _ held).2⟩

end Substitutions

end OpGraph
