import OpGraph.Failure
import OpGraph.Text.Digit

/-!
# Command line arguments

The command takes one file and a few options. Long options may be shortened as long as they
stay unambiguous, a value may follow its option after an equals sign, and after two dashes
nothing is an option any more. Arguments that look like options are told apart before any is
acted on; after that the arguments count from left to right.
-/
namespace OpGraph.CommandLine

inductive Flag where
  | help
  | dialect
  | printTypes
  | debug
  deriving DecidableEq

/-- What is wrong with the arguments. -/
inductive ArgumentFault where
  | ambiguous (argument : String) (options : List String)
  | ignoredValue (flag : Flag) (value : String)
  | missingValue (flag : Flag)
  | invalidChoice (flag : Flag) (value : String)
  | missingFile
  | unrecognized (arguments : List String)
  | noSuchFile (name : String)
  | unknownDialect (name : String)
  deriving DecidableEq

namespace Flag

/-- The spellings of the options, in the order in which they are offered. -/
def spellings : List (String × Flag) :=
  [("-h", help), ("--help", help), ("--dialect", dialect), ("--print-types", printTypes),
   ("--debug", debug)]

def name : Flag → String
  | help => "-h/--help"
  | dialect => "--dialect"
  | printTypes => "--print-types"
  | debug => "--debug"

end Flag

def ArgumentFault.message : ArgumentFault → String
  | ambiguous argument options =>
    "ambiguous option: " ++ argument ++ " could match " ++ Text.commaList options
  | ignoredValue flag value =>
    "argument " ++ flag.name ++ ": ignored explicit argument " ++ Text.quote value
  | missingValue flag => "argument " ++ flag.name ++ ": expected one argument"
  | invalidChoice flag value =>
    "argument " ++ flag.name ++ ": invalid choice: " ++ Text.quote value ++ " (choose from " ++
      Text.commaList (Dialect.all.map fun dialect => Text.quote dialect.name) ++ ")"
  | missingFile => "the following arguments are required: F"
  | unrecognized arguments => "unrecognized arguments: " ++ " ".intercalate arguments
  | noSuchFile name => name ++ " does not exist."
  | unknownDialect name => ((Failure.unknownDialect name).message).getD ""

inductive Argument where
  | separator
  | operand (text : String)
  | option (flag : Flag) (isShort : Bool) (value : Option String)
  | unknownOption (text : String)
  deriving DecidableEq

/-- Splits at the first equals sign. -/
def splitAtEquals (text : List Char) : Option (List Char × List Char) :=
  match text.dropWhile (· != '=') with
  | [] => none
  | _ :: value => some (text.takeWhile (· != '='), value)

/-- A text without the line break at its end. -/
def withoutBreak (text : List Char) : List Char :=
  if text.getLast? == some '\n' then text.dropLast else text

/-- A negative number in decimal notation, which may end its line. -/
def isNegativeNumber (text : List Char) : Bool :=
  match withoutBreak text with
  | '-' :: rest =>
    let isDigit := fun c => (Text.digitValue? c).isSome
    match rest.dropWhile isDigit with
    | [] => !rest.isEmpty
    | '.' :: digits => !digits.isEmpty && digits.all isDigit
    | _ => false
  | _ => false

def startsWith (start : List Char) (entry : String × Flag) : Bool :=
  start.isPrefixOf entry.1.toList

/-- The options that an argument may be short for, each with the value joined to it. -/
def candidates (text : List Char) : List (String × Argument) :=
  match text with
  | '-' :: '-' :: _ =>
    let (start, value) := match splitAtEquals text with
      | some (start, value) => (start, some (String.ofList value))
      | none => (text, none)
    (Flag.spellings.filter (startsWith start)).map fun (spelling, flag) =>
      (spelling, .option flag false value)
  | '-' :: c :: rest =>
    (Flag.spellings.filter fun entry => entry.1.toList == ['-', c]).map fun (spelling, flag) =>
      (spelling, .option flag true (some (String.ofList rest)))
  | _ => []

def exactOption? (spelling : List Char) (value : Option (List Char)) : Option Argument :=
  (Flag.spellings.lookup (String.ofList spelling)).map fun flag =>
    .option flag (spelling.length == 2) (value.map String.ofList)

/-- An argument that starts with a dash and is neither an option nor short for one. -/
def classifyOther (text : String) : Except ArgumentFault Argument :=
  match candidates text.toList with
  | [(_, argument)] => .ok argument
  | [] =>
    if isNegativeNumber text.toList || text.toList.contains ' ' then .ok (.operand text)
    else .ok (.unknownOption text)
  | several => .error (.ambiguous text (several.map Prod.fst))

def classify (text : String) : Except ArgumentFault Argument :=
  match text.toList with
  | '-' :: c :: rest =>
    let characters := '-' :: c :: rest
    match exactOption? characters none with
    | some argument => .ok argument
    | none =>
      match splitAtEquals characters with
      | some (spelling, value) =>
        match exactOption? spelling (some value) with
        | some argument => .ok argument
        | none => classifyOther text
      | none => classifyOther text
  | _ => .ok (.operand text)

def classifyAll : List String → Except ArgumentFault (List Argument)
  | [] => .ok []
  | text :: texts =>
    if text = "--" then .ok (.separator :: texts.map .operand)
    else do return (← classify text) :: (← classifyAll texts)

structure Options where
  file : Option String
  dialect : Option Dialect
  printTypes : Bool
  debug : Bool
  extras : List String
  deriving DecidableEq

/-- What the arguments ask for. -/
inductive Request where
  | help
  | run (file : String) (dialect : Option Dialect) (printTypes debug : Bool)

/-- The letters joined to a short option must all be short options, and there is only one. -/
def helpLetters : List Char → Bool
  | [] => true
  | c :: rest => c == 'h' && helpLetters rest

/-- What is left of the joined letters when the first that is no option is met. -/
def strayLetters : List Char → List Char
  | 'h' :: c :: rest => strayLetters (c :: rest)
  | letters => letters

def chooseDialect (options : Options) (value : String) : Except ArgumentFault Options :=
  match Dialect.all.find? fun dialect => dialect.name == value with
  | some dialect => .ok { options with dialect := some dialect }
  | none => .error (.invalidChoice .dialect value)

def finish (options : Options) : Except ArgumentFault Request :=
  match options.file with
  | none => .error .missingFile
  | some file =>
    if options.extras.isEmpty then
      .ok (.run file options.dialect options.printTypes options.debug)
    else .error (.unrecognized options.extras)

def addExtra (options : Options) (text : String) : Options :=
  { options with extras := options.extras ++ [text] }

/-- Acts on the arguments from left to right. -/
def act (options : Options) : List Argument → Except ArgumentFault Request
  | [] => finish options
  | .unknownOption text :: rest => act (addExtra options text) rest
  | .option .help isShort value :: _ =>
    match value with
    | none => .ok .help
    | some value =>
      if isShort && !value.isEmpty && helpLetters value.toList then .ok .help
      else .error (.ignoredValue .help
        (if isShort then String.ofList (strayLetters value.toList) else value))
  | .option .dialect _ (some value) :: rest => do act (← chooseDialect options value) rest
  | .option .dialect _ none :: .operand value :: rest => do
    act (← chooseDialect options value) rest
  | .option .dialect _ none :: _ => .error (.missingValue .dialect)
  | .option flag _ (some value) :: _ => .error (.ignoredValue flag value)
  | .option .printTypes _ none :: rest => act { options with printTypes := true } rest
  | .option .debug _ none :: rest => act { options with debug := true } rest
  | .separator :: .operand text :: rest =>
    if options.file.isNone then act { options with file := some text } rest
    else act (addExtra (addExtra options "--") text) rest
  | .separator :: rest => act (addExtra options "--") rest
  | .operand text :: .separator :: rest =>
    if options.file.isNone then act { options with file := some text } rest
    else act (addExtra (addExtra options text) "--") rest
  | .operand text :: rest =>
    if options.file.isNone then act { options with file := some text } rest
    else act (addExtra options text) rest

def parse (arguments : List String) : Except ArgumentFault Request := do
  act ⟨none, none, false, false, []⟩ (← classifyAll arguments)

end OpGraph.CommandLine
