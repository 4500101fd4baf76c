import LoxLexer.Text.Digit
import LoxLexer.Text.Quoted

/-!
# Command-line arguments

Every argument is first classified by itself: as an option, possibly abbreviated and possibly with a
value after an equals sign, or as a plain word. Only then are the arguments taken in order. The first
uninterrupted run of plain words holds the scripts; a plain word after it is not recognized.
-/

namespace LoxLexer

/-- The options of the command line. -/
inductive CommandOption where
  /-- Asks for help. -/
  | help
  /-- Names a settings file. -/
  | config
  /-- Turns colour off. -/
  | noColor
  deriving DecidableEq, Repr

namespace CommandOption

/-- The spellings of the options. -/
def spellings : List (String × CommandOption) :=
  [("-h", help), ("--help", help), ("--config", config), ("--no-color", noColor)]

/-- The option as messages name it, by all its spellings. -/
def label (option : CommandOption) : String :=
  "/".intercalate ((spellings.filter fun entry => entry.2 = option).map Prod.fst)

/-- The option with a spelling. -/
def ofSpelling? (spelling : String) : Option CommandOption := spellings.lookup spelling

end CommandOption

/-- Why a command line is not understood. -/
inductive UsageError where
  /-- An abbreviation fits several options. -/
  | ambiguous (argument : String) (candidates : List String)
  /-- A value is missing after an option. -/
  | missingValue (option : CommandOption)
  /-- A value is given to an option that takes none. -/
  | needlessValue (option : CommandOption) (value : String)
  /-- Some arguments are neither options nor scripts. -/
  | unrecognized (arguments : List String)
  deriving DecidableEq, Repr

/-- The wording of an error. -/
def UsageError.message : UsageError → String
  | ambiguous argument candidates =>
      "ambiguous option: " ++ argument ++ " could match " ++ ", ".intercalate candidates
  | missingValue option => "argument " ++ option.label ++ ": expected one argument"
  | needlessValue option value =>
      "argument " ++ option.label ++ ": ignored explicit argument " ++ Text.quoted value
  | unrecognized arguments => "unrecognized arguments: " ++ " ".intercalate arguments

/-- An argument by itself. -/
inductive Word where
  /-- A plain word. -/
  | plain
  /-- The first double hyphen, after which all arguments are plain words. -/
  | separator
  /-- An option, whether it is spelled with two hyphens, and the value that is given with it. -/
  | option (option : CommandOption) (long : Bool) (value : Option String)
  /-- What looks like an option but is none. -/
  | unknown
  deriving DecidableEq, Repr

namespace Word

/-- Whether an argument is a number with a minus sign: digits, or a point with digits after it and
possibly before it. One line end may follow. -/
def isNegativeNumber (text : List Char) : Bool :=
  let chars := if text.getLast? = some '\n' then text.dropLast else text
  match chars with
  | '-' :: digits =>
      match digits.dropWhile Text.isDecimalDigit with
      | [] => !digits.isEmpty
      | '.' :: fraction => !fraction.isEmpty && fraction.all Text.isDecimalDigit
      | _ => false
  | _ => false

/-- Splits an argument at its first equals sign. -/
def splitValue (text : List Char) : String × Option String :=
  let name := String.ofList (text.takeWhile (· ≠ '='))
  match text.dropWhile (· ≠ '=') with
  | [] => (name, none)
  | _ :: value => (name, some (String.ofList value))

/-- The spellings that an argument abbreviates, each with the value given with it. An argument with two
hyphens abbreviates the options whose spelling it starts, and one with a single hyphen may be the short
spelling of an option with a value directly after it. -/
def abbreviated (text : List Char) : List (String × Option String) :=
  match text with
  | '-' :: '-' :: _ =>
      let (name, value) := splitValue text
      (CommandOption.spellings.filter fun entry => name.toList.isPrefixOf entry.1.toList).map
        fun entry => (entry.1, value)
  | '-' :: c :: rest =>
      (CommandOption.spellings.filter fun entry => entry.1.toList = ['-', c]).map
        fun entry => (entry.1, some (String.ofList rest))
  | _ => []

/-- Whether a spelling has two hyphens. -/
def isLong (spelling : String) : Bool := "--".toList.isPrefixOf spelling.toList

/-- The word that a spelling with a value is. -/
def ofSpelling (spelling : String) (value : Option String) : Word :=
  match CommandOption.ofSpelling? spelling with
  | some found => option found (isLong spelling) value
  | none => unknown

/-- Whether an argument is an option by its spelling alone, without or with a value. -/
def bySpelling? (argument : String) : Option Word :=
  let (name, value) := splitValue argument.toList
  if (CommandOption.ofSpelling? argument).isSome then some (ofSpelling argument none)
  else if value.isSome && (CommandOption.ofSpelling? name).isSome then some (ofSpelling name value)
  else none

/-- Classifies an argument that is not the separator. -/
def classify (argument : String) : Except UsageError Word :=
  let text := argument.toList
  if text.head? != some '-' || text.length = 1 then .ok plain
  else match bySpelling? argument with
    | some word => .ok word
    | none =>
        match abbreviated text with
        | [(spelling, value)] => .ok (ofSpelling spelling value)
        | [] => .ok (if isNegativeNumber text || text.contains ' ' then plain else unknown)
        | several => .error (.ambiguous argument (several.map Prod.fst))

/-- Classifies all arguments. -/
def classifyAll : List String → Except UsageError (List (String × Word))
  | [] => .ok []
  | argument :: rest =>
      if argument = "--" then
        .ok ((argument, separator) :: rest.map fun later => (later, plain))
      else do
        let word ← classify argument
        return (argument, word) :: (← classifyAll rest)

end Word

/-- The value of the option that names a settings file. -/
inductive ConfigValue where
  /-- The path of the file, as it is written. -/
  | path (text : String)
  /-- The separator, which is no value at all. -/
  | separator
  deriving DecidableEq, Repr

/-- The meaning of a command line that is run. -/
structure Arguments where
  /-- The scripts, in order. -/
  scripts : List String
  /-- The settings file that is named last, if any. -/
  config : Option ConfigValue
  /-- Whether colour is turned off. -/
  noColor : Bool
  deriving DecidableEq, Repr, Inhabited

/-- What a command line asks for. -/
inductive Request where
  /-- Help. -/
  | help
  /-- A run. -/
  | run (arguments : Arguments)
  deriving DecidableEq, Repr

/-- How far the run of plain words that holds the scripts has got. -/
inductive ScriptRun where
  /-- No plain word has been met. -/
  | before
  /-- The run goes on. -/
  | inside
  /-- An option has ended the run. -/
  | after
  deriving DecidableEq, Repr

/-- The reading of a command line. -/
structure ArgumentState where
  /-- What is known so far. -/
  arguments : Arguments
  /-- The run of scripts. -/
  run : ScriptRun
  /-- The arguments that are not recognized. -/
  unrecognized : List String

namespace ArgumentState

/-- Takes a plain word or the separator, which is no script itself. -/
def takePlain (argument : String) (isScript : Bool) (state : ArgumentState) : ArgumentState :=
  match state.run with
  | .after => { state with unrecognized := state.unrecognized ++ [argument] }
  | _ =>
      let scripts := state.arguments.scripts
      { state with
        run := .inside
        arguments := { state.arguments with
          scripts := if isScript then scripts ++ [argument] else scripts } }

/-- Notes that an option has been met. -/
def meetOption (state : ArgumentState) : ArgumentState :=
  match state.run with
  | .inside => { state with run := .after }
  | _ => state

/-- Notes an argument that is not recognized. -/
def refuse (argument : String) (state : ArgumentState) : ArgumentState :=
  { state with unrecognized := state.unrecognized ++ [argument] }

/-- Notes the value of the option that names a settings file. A value that is the separator is
dropped. -/
def setConfig (value : String) (state : ArgumentState) : ArgumentState :=
  let config := if value = "--" then ConfigValue.separator else .path value
  { state with arguments := { state.arguments with config := some config } }

/-- Notes that colour is turned off. -/
def setNoColor (state : ArgumentState) : ArgumentState :=
  { state with arguments := { state.arguments with noColor := true } }

/-- Checks a value that is given to the option for help. Directly after the short spelling it may be
the letter of that spelling, any number of times. -/
def checkHelpValue (long : Bool) (value : Option String) : Except UsageError Unit :=
  match value with
  | none => .ok ()
  | some text =>
      if long || text.isEmpty then .error (.needlessValue .help text)
      else match text.toList.dropWhile (· = 'h') with
        | [] => .ok ()
        | rest => .error (.needlessValue .help (String.ofList rest))

/-- Takes all arguments in order. -/
def takeAll (state : ArgumentState) : List (String × Word) → Except UsageError Request
  | [] =>
      if state.unrecognized.isEmpty then .ok (.run state.arguments)
      else .error (.unrecognized state.unrecognized)
  | (argument, .plain) :: rest => takeAll (state.takePlain argument true) rest
  | (argument, .separator) :: rest => takeAll (state.takePlain argument false) rest
  | (argument, .unknown) :: rest => takeAll (state.meetOption.refuse argument) rest
  | (_, .option .help long value) :: _ => (checkHelpValue long value).map fun _ => .help
  | (_, .option .noColor _ none) :: rest => takeAll state.meetOption.setNoColor rest
  | (_, .option .noColor _ (some value)) :: _ => .error (.needlessValue .noColor value)
  | (_, .option .config _ (some value)) :: rest => takeAll (state.meetOption.setConfig value) rest
  | (_, .option .config _ none) :: (value, .plain) :: rest =>
      takeAll (state.meetOption.setConfig value) rest
  | (_, .option .config _ none) :: _ => .error (.missingValue .config)

end ArgumentState

/-- Reads a command line. -/
def Request.ofArguments (arguments : List String) : Except UsageError Request := do
  ArgumentState.takeAll ⟨⟨[], none, false⟩, .before, []⟩ (← Word.classifyAll arguments)

namespace CommandLine

/-- The line that shows how to use the command line. -/
def usageLine : String := "usage: loxscan [-h] [--config CONFIG] [--no-color] [script ...]\n"

/-- The text that explains the command line. -/
def helpText : String :=
  usageLine ++
  "\nScan Lox source into tokens. Without a script, start an interactive prompt.\n" ++
  "\npositional arguments:\n" ++
  "  script           Lox source file to scan (omit to start the interactive\n" ++
  "                   prompt)\n" ++
  "\noptions:\n" ++
  "  -h, --help       show this help message and exit\n" ++
  "  --config CONFIG  Path to a settings file (default: ./.loxscan.yaml if\n" ++
  "                   present)\n" ++
  "  --no-color       Disable colored diagnostics\n"

end CommandLine

end LoxLexer
