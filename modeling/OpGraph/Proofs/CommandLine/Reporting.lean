import OpGraph.CommandLine.Run
import OpGraph.Proofs.Description.Reporting
import OpGraph.Proofs.Graph.Stopping

/-!
# What the command reports

Whatever the file holds that the command is given, and whatever the reader makes of it, a fault of
the description and a violation that inference finds end it with exit code 1 and one line that says
what is wrong, after the lines of progress that were asked for. What escapes loading escapes the
command too, and so does a number that inference cannot write (`ends_of_text`).
-/
namespace OpGraph.CommandLine

open Description (Escapes explain load)
open Markup (Content)

/-- The command is given a file that can be read and holds a text. -/
inductive Given (setting : Setting) (text : String) (dialect : Dialect)
    (printTypes debug : Bool) : Prop
  | file {name contents : String} {asked : Option Dialect}
    (parsed : parse setting.arguments = .ok (.run name asked printTypes debug))
    (readable : setting.file name = .file contents)
    (chosen : chosenDialect asked setting.dialectName = .ok dialect)
    (holds : String.ofList (normalizeBreaks contents.toList) = text)

/-- The lines of progress up to the inference of types. -/
def progress (debug : Bool) (store : Store) (graph : Graph) : List String :=
  if debug then Trace.loaded graph :: Trace.inferred store graph else []

variable [DescriptionReader] {setting : Setting} {text : String} {dialect : Dialect}
  {printTypes debug : Bool}

theorem run_of_given (given : Given setting text dialect printTypes debug) :
    run setting = runOn text dialect printTypes debug := by
  obtain ⟨parsed, readable, chosen, rfl⟩ := given
  rw [run, parsed]
  dsimp only
  rw [readable, chosen]

theorem runOn_of_not_loaded {failure : Failure}
    (refused : (load .library .empty text).2 = .error failure) :
    runOn text dialect printTypes debug = failed failure [] [] := by
  cases loaded : load .library .empty text with
  | mk store outcome =>
    rw [loaded] at refused
    cases refused
    rw [runOn]
    dsimp only
    rw [loaded]

theorem runOn_of_not_inferred {store : Store} {graph : Graph} {failure : Failure}
    (loaded : load .library .empty text = (store, .ok graph))
    (refused : (graph.infer store).2 = .error failure) :
    runOn text dialect printTypes debug = failed failure [] (progress debug store graph) := by
  cases inferred : graph.infer store with
  | mk resolved outcome =>
    rw [inferred] at refused
    cases refused
    rw [runOn]
    dsimp only
    rw [loaded]
    dsimp only
    rw [inferred]
    rfl

/-- No cause but those that are known lets a failure escape. -/
theorem failed_of_escapes {failure : Failure} (escapes : Escapes text failure)
    (lines : List String) : failed failure [] lines = ⟨.escaped failure, [], lines⟩ := by
  cases escapes with
  | markup refused unlike => rfl
  | blocked marked blocked => cases blocked <;> rfl
  | spoiled read spoiled => cases spoiled <;> rfl

/-- A text is loaded only where nothing lets it escape; otherwise a fault of it is reported, or it
escapes, as it always does when the reader refuses it for anything but its form. The command turns
the reports of loading and of inference into exit code 1 and one line. It leaves open what escapes,
and the numbers that inference cannot write. -/
theorem ends_of_text (text : String) :
    (∀ registry initial, match (load registry initial text).2 with
      | .ok _ => ∀ failure, ¬Escapes text failure
      | .error failure => (∃ fault, failure = .description fault) ∨ Escapes text failure) ∧
    (∀ fault, DescriptionReader.contents text = .error fault → ∀ registry initial,
      (load registry initial text).2 =
        .error (explain (DescriptionReader.account text) (.markup fault))) ∧
    ∀ setting dialect printTypes debug, Given setting text dialect printTypes debug →
      (∀ failure, (load .library .empty text).2 = .error failure →
        (∃ fault, failure = .description fault ∧
          run setting = ⟨.exit 1, [], ["error: " ++ fault.message]⟩) ∨
        (Escapes text failure ∧ run setting = ⟨.escaped failure, [], []⟩)) ∧
      ∀ store graph failure, load .library .empty text = (store, .ok graph) →
        (graph.infer store).2 = .error failure →
        (∃ kind name violation, failure = .invalid kind (some name) violation ∧
          run setting = ⟨.exit 1, [], progress debug store graph ++
            ["error: " ++ (kind ++ " (" ++ name ++ ")" ++ ": " ++ violation.message)]⟩) ∨
        (failure = .numberTooLong ∧
          run setting = ⟨.escaped failure, [], progress debug store graph⟩) := by
  refine ⟨fun registry initial => ?_, fun fault refused registry initial => ?_,
    fun setting dialect printTypes debug given => ⟨fun failure refused => ?_,
      fun store graph failure loaded refused => ?_⟩⟩
  · cases loaded : load registry initial text with
    | mk store outcome =>
      cases outcome with
      | ok graph => exact Description.not_escapes_of_load loaded
      | error failure =>
        have failed : (load registry initial text).2 = .error failure := by rw [loaded]
        rcases Description.fails_load registry initial text failure failed with fault | cause
        · exact .inl ⟨fault, rfl⟩
        · exact .inr cause
  · rw [load, Description.ofText, refused]
    rfl
  · rw [run_of_given given, runOn_of_not_loaded refused]
    rcases Description.fails_load _ _ text failure refused with fault | cause
    · exact .inl ⟨fault, rfl, rfl⟩
    · exact .inr ⟨cause, failed_of_escapes cause []⟩
  · rw [run_of_given given, runOn_of_not_inferred loaded refused]
    have inferable := (Description.wellFormed_of_load loaded).inferable
    obtain ⟨id, -, refuses⟩ := inferable.infer_error refused
    cases refuses with
    | violation violation => exact .inl ⟨_, _, violation, rfl, rfl⟩
    | digits => exact .inr ⟨rfl, rfl⟩

omit [DescriptionReader] in
/-- A list in brackets is refused by the markup, and the command does not report it. -/
theorem ends_of_text_inBrackets :
    let _reader : DescriptionReader := .plain
    let text := "inputs: [x]\nnodes: []\n"
    let setting : Setting := ⟨["g.yaml"], none, fun _ => .file text⟩
    Content.ofText text = .error .flowCollection ∧ Given setting text .indexed false false ∧
      (load .library .empty text).2 = .error (.markup .flowCollection) ∧
      run setting = ⟨.escaped (.markup .flowCollection), [], []⟩ := by
  intro _reader text setting
  have refused : Content.ofText text = .error .flowCollection := by
    have fails : (match Content.ofText text with
      | .error .flowCollection => true
      | _ => false) = true := by decide +kernel
    split at fails
    · assumption
    · cases fails
  have parsed : parse setting.arguments = .ok (.run "g.yaml" none false false) := rfl
  have given : Given setting text .indexed false false := .file parsed rfl rfl (by decide +kernel)
  obtain ⟨-, escapes, ends⟩ := ends_of_text text
  have loaded := escapes _ refused .library .empty
  refine ⟨refused, given, loaded, ?_⟩
  rcases (ends _ _ _ _ given).1 _ loaded with ⟨fault, same, -⟩ | ⟨-, escaped⟩
  · cases same
  · exact escaped

end OpGraph.CommandLine
