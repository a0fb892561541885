import OpGraph.CommandLine.Arguments
import OpGraph.CommandLine.Trace
import OpGraph.Description.Loading

/-!
# Running the command

Loads the description in a file, infers its types, and prints the types of the outputs if
they are asked for and the kernels of its nodes. What the command prints and how it ends is
computed from the arguments, the environment and the contents of the files.
-/
namespace OpGraph.CommandLine

/-- How a run ends: with an exit code, or with a failure that it does not report. -/
inductive Ending where
  | exit (code : Nat)
  | escaped (failure : Failure)

/-- The output of a run, as lines. -/
structure Outcome where
  ending : Ending
  output : List String
  messages : List String

/-- What a file name stands for. -/
inductive PathTarget where
  | missing
  | directory
  | file (contents : String)

/-- What a run depends on: the arguments, the default dialect, and the files by name. -/
structure Setting where
  arguments : List String
  dialectName : Option String
  file : String → PathTarget

def programName : String :=
  "nnop-codegen"

def refused (fault : ArgumentFault) : Outcome :=
  ⟨.exit 2, [], [programName ++ ": error: " ++ fault.message]⟩

/-- The dialect asked for, or the one of the environment, or the indexed one. -/
def chosenDialect (asked : Option Dialect) (dialectName : Option String) :
    Except ArgumentFault Dialect :=
  match asked with
  | some dialect => .ok dialect
  | none =>
    let name := dialectName.getD ""
    if name.isEmpty then .ok .indexed
    else match Dialect.ofName? name with
      | some dialect => .ok dialect
      | none => .error (.unknownDialect name)

def errorLine (failure : Failure) : String :=
  "error: " ++ (failure.message).getD ""

/-- Ends a run with a failure: those of the description are reported, others escape. -/
def failed (failure : Failure) (output messages : List String) : Outcome :=
  match failure with
  | .description _ | .invalid _ _ _ => ⟨.exit 1, output, messages ++ [errorLine failure]⟩
  | _ => ⟨.escaped failure, output, messages⟩

/-- A missing translator is reported, other failures of translation escape. -/
def failedTranslation (failure : Failure) (output messages : List String) : Outcome :=
  match failure with
  | .noTranslator _ _ => ⟨.exit 1, output, messages ++ [errorLine failure]⟩
  | _ => ⟨.escaped failure, output, messages⟩

def typeLines (store : Store) (graph : Graph) (types : List TensorType) : List String :=
  ((graph.outputs.map store.name).zip types).map fun (name, type) =>
    "# " ++ name ++ ": " ++ type.text

def kernelLines (kernels : List (String × Fragment)) : List String :=
  kernels.flatMap fun (name, fragment) => ["# " ++ name, fragment.text]

variable [DescriptionReader]

def runOn (source : String) (dialect : Dialect) (printTypes debug : Bool) : Outcome :=
  let report := fun (lines : List String) => if debug then lines else []
  let registry := Registry.library
  match Description.load registry .empty source with
  | (_, .error failure) => failed failure [] []
  | (store, .ok graph) =>
    let messages := report (Trace.loaded graph :: Trace.inferred store graph)
    match graph.infer store with
    | (_, .error failure) => failed failure [] messages
    | (store, .ok types) =>
      let output := if printTypes then typeLines store graph types else []
      let messages := messages ++ report (Trace.translated registry store graph dialect)
      match graph.translate registry store dialect with
      | .error failure => failedTranslation failure output messages
      | .ok kernels => ⟨.exit 0, output ++ kernelLines kernels, messages⟩

/-- Line breaks of all kinds are read as line feeds. -/
def normalizeBreaks : List Char → List Char
  | '\r' :: '\n' :: rest => '\n' :: normalizeBreaks rest
  | '\r' :: rest => '\n' :: normalizeBreaks rest
  | c :: rest => c :: normalizeBreaks rest
  | [] => []

/-- Looks at the file, then at the dialect, and only then reads the file. -/
def run (setting : Setting) : Outcome :=
  match parse setting.arguments with
  | .error fault => refused fault
  | .ok .help => ⟨.exit 0, [], []⟩
  | .ok (.run file asked printTypes debug) =>
    match setting.file file, chosenDialect asked setting.dialectName with
    | .missing, _ => refused (.noSuchFile file)
    | _, .error fault => refused fault
    | .directory, .ok _ => ⟨.escaped (.isADirectory file), [], []⟩
    | .file contents, .ok dialect =>
      runOn (String.ofList (normalizeBreaks contents.toList)) dialect printTypes debug

end OpGraph.CommandLine
