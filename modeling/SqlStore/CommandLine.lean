import SqlStore.Shell

/-! # The command line

Arguments are read from left to right. The first that asks for the version or the help, or that is
at fault, decides; if none does, the statements given are run in their order, and without any the
shell starts. There are no arguments but options and their values.
-/

namespace SqlStore

/-- What the arguments ask for. -/
inductive Request where
  | shell
  | statements (texts : List String)
  | version
  | help
  | refused
deriving DecidableEq, Repr

/-- An option that takes a value. -/
inductive Setting where
  | command
  | logLevel
deriving DecidableEq, Repr

/-- One argument where no value is due. A setting may bring its value along. -/
inductive Argument where
  | setting (setting : Setting) (value : Option String)
  | version
  | help
  | endOfOptions
  | unknown
deriving DecidableEq, Repr

namespace Argument

/-- An option by its full name, with the value that an equals sign attaches to it. -/
def ofLongName (name : String) (value : Option String) : Argument :=
  if name = "command" then setting .command value
  else if name = "log-level" then setting .logLevel value
  else if value.isSome then unknown
  else if name = "version" then version
  else if name = "help" then help
  else unknown

/-- An option by its letter. What follows the letter of a setting is its value, behind an equals
sign or not; what follows any other letter is not looked at. -/
def ofLetter : List Char → Argument
  | 'c' :: [] => setting .command none
  | 'c' :: '=' :: value => setting .command (some (String.ofList value))
  | 'c' :: value => setting .command (some (String.ofList value))
  | 'V' :: _ => version
  | 'h' :: _ => help
  | _ => unknown

def ofText (argument : String) : Argument :=
  match argument.toList with
  | ['-', '-'] => endOfOptions
  | '-' :: '-' :: option =>
    let name := String.ofList (option.takeWhile (· ≠ '='))
    match option.dropWhile (· ≠ '=') with
    | [] => ofLongName name none
    | _ :: value => ofLongName name (some (String.ofList value))
  | '-' :: letters => ofLetter letters
  | _ => unknown

/-- A value that stands in an argument of its own does not begin like an option. A lone dash does
not. -/
def isValue (argument : String) : Bool :=
  argument == "-" || argument.toList.head? != some '-'

end Argument

/-- The settings read so far. -/
structure Settings where
  commands : List String := []
  logLevel : Option String := none
deriving DecidableEq, Repr

namespace Settings

/-- Statements add up; a log level is given once. -/
def set? (settings : Settings) : Setting → String → Option Settings
  | .command, text => some { settings with commands := settings.commands ++ [text] }
  | .logLevel, level =>
    if settings.logLevel.isNone then some { settings with logLevel := some level } else none

def request (settings : Settings) : Request :=
  if settings.commands.isEmpty then .shell else .statements settings.commands

end Settings

namespace Request

/-- Reads arguments behind the settings that were read before them. A setting is `due` where its
value has to be the next argument. -/
def ofArgumentsFrom (settings : Settings) (due : Option Setting) : List String → Request
  | [] => if due.isSome then refused else settings.request
  | argument :: rest =>
    match due with
    | some setting =>
      if Argument.isValue argument then
        match settings.set? setting argument with
        | some settings => ofArgumentsFrom settings none rest
        | none => refused
      else refused
    | none =>
      match Argument.ofText argument with
      | .setting setting none => ofArgumentsFrom settings (some setting) rest
      | .setting setting (some value) =>
        match settings.set? setting value with
        | some settings => ofArgumentsFrom settings none rest
        | none => refused
      | .version => version
      | .help => help
      | .endOfOptions => if rest.isEmpty then settings.request else refused
      | .unknown => refused

def ofArguments (arguments : List String) : Request := ofArgumentsFrom {} none arguments

end Request

/-- What a run prints and its exit code. -/
structure Completion where
  output : String
  code : Nat
deriving DecidableEq, Repr

namespace CommandLine

def versionText : String := "minisql " ++ Shell.version ++ "\n"

def helpText : String :=
  "A tiny in-memory SQL database\n\n" ++
  "Usage: minisql [OPTIONS]\n\n" ++
  "Options:\n" ++
  "  -c, --command <SQL>          Execute the statement and exit instead of starting the shell" ++
  " (repeatable)\n" ++
  "      --log-level <LOG_LEVEL>  Log filter [default: warn]\n" ++
  "  -h, --help                   Print help\n" ++
  "  -V, --version                Print version\n"

/-- Runs statements one after the other, failed ones or not. The code tells whether all
succeeded. -/
def runStatements (database : Database) : List String → Completion
  | [] => ⟨"", 0⟩
  | text :: rest =>
    let (result, database) := (Session.execute text).run database
    let others := runStatements database rest
    ⟨Report.result result ++ "\n" ++ others.output, if result.isOk then others.code else 1⟩

/-- A whole run on its arguments and its input. -/
def run (arguments : List String) (input : Bytes) : Completion :=
  match Request.ofArguments arguments with
  | .shell => ⟨Shell.banner ++ Shell.start.transcript (Shell.lines input), 0⟩
  | .statements texts => runStatements .empty texts
  | .version => ⟨versionText, 0⟩
  | .help => ⟨helpText, 0⟩
  | .refused => ⟨"", 2⟩

end CommandLine

end SqlStore
