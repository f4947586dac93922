/-
  CallSites.CommandLine.Usage

  The commands with their help, and the errors in their use.
-/
import CallSites.Text.Quoted

namespace CallSites.CommandLine

/-! ## Commands -/

/-- What a part of the command line belongs to. -/
inductive Scope where
  /-- The program itself, before a command is named. -/
  | program
  /-- Checks a class or method against a configuration. -/
  | check
  /-- Prints a method descriptor. -/
  | descriptor
  deriving DecidableEq, Repr

namespace Scope

/-- The command with this name. -/
def ofCommand? : String → Option Scope
  | "check" => some .check
  | "descriptor" => some .descriptor
  | _ => none

/-- The names of all commands. -/
def commandNames : List String := ["check", "descriptor"]

/-- How the scope is called. -/
def path : Scope → String
  | .program => "invmatch"
  | .check => "invmatch check"
  | .descriptor => "invmatch descriptor"

/-- The line that shows the arguments. -/
def usage (scope : Scope) : String :=
  "Usage: " ++ scope.path ++ " " ++ match scope with
    | .program => "[OPTIONS] COMMAND [ARGS]..."
    | .check => "[OPTIONS] CONFIG CLASS_NAME [METHOD_NAME] [DESCRIPTOR]"
    | .descriptor => "[OPTIONS] RETURN_TYPE [PARAMETER_TYPES]..."

private def description : Scope → List String
  | .program => ["  Check which classes and methods a matcher configuration selects."]
  | .check =>
    ["  Evaluate CLASS_NAME (and optionally METHOD_NAME DESCRIPTOR) against CONFIG.",
     "",
     "  With several matchers in CONFIG, any one matching is enough. Without",
     "  METHOD_NAME only the class check runs."]
  | .descriptor => ["  Print the method descriptor for RETURN_TYPE and PARAMETER_TYPES."]

private def options : Scope → List String
  | .program =>
    ["Options:",
     "  -v, --verbose  Log matcher construction at DEBUG level.",
     "  --help         Show this message and exit."]
  | _ => ["Options:", "  --help  Show this message and exit."]

private def commands : Scope → List String
  | .program =>
    ["",
     "Commands:",
     "  check       Evaluate CLASS_NAME (and optionally METHOD_NAME DESCRIPTOR)...",
     "  descriptor  Print the method descriptor for RETURN_TYPE and..."]
  | _ => []

/-- The whole help text. -/
def help (scope : Scope) : String :=
  "\n".intercalate
    (scope.usage :: "" :: (scope.description ++ "" :: (scope.options ++ scope.commands))) ++ "\n"

end Scope

/-! ## Errors in the use -/

/-- What is wrong with the arguments. -/
inductive UsageError where
  /-- An unknown option, with the names it may stand for. -/
  | noSuchOption (name : String) (similar : List String)
  | optionTakesNoValue (name : String)
  | missingCommand
  /-- An unknown command, with the names it may stand for. -/
  | noSuchCommand (name : String) (similar : List String)
  | missingArgument (name : String)
  | extraArguments (arguments : List String)
  | noSuchFile (path : String)
  | fileIsDirectory (path : String)
  | fileNotReadable (path : String)
  deriving DecidableEq, Repr

namespace UsageError

private def suggestion (kind : String) : List String → String
  | [] => ""
  | [name] => " Did you mean " ++ Text.quote name ++ "?"
  | names =>
    let quoted := names.map fun name => Text.quote (.ofString name)
    " (Possible " ++ kind ++ ": " ++ ", ".intercalate quoted ++ ")"

/-- The error in words. -/
def message : UsageError → String
  | .noSuchOption name similar =>
    "No such option " ++ Text.quote name ++ "." ++ suggestion "options" similar
  | .optionTakesNoValue name => "Option " ++ Text.quote name ++ " does not take a value."
  | .missingCommand => "Missing command."
  | .noSuchCommand name similar =>
    "No such command " ++ Text.quote name ++ "." ++ suggestion "commands" similar
  | .missingArgument name => "Missing argument '" ++ name ++ "'."
  | .extraArguments arguments =>
    "Got unexpected extra argument" ++ (if arguments.length = 1 then "" else "s") ++ " (" ++
      " ".intercalate arguments ++ ")"
  | .noSuchFile path => "Invalid value for 'CONFIG': File " ++ Text.quote path ++ " does not exist."
  | .fileIsDirectory path =>
    "Invalid value for 'CONFIG': File " ++ Text.quote path ++ " is a directory."
  | .fileNotReadable path =>
    "Invalid value for 'CONFIG': File " ++ Text.quote path ++ " is not readable."

/-- The error with the usage of the command it occurred in. -/
def report (scope : Scope) (error : UsageError) : String :=
  scope.usage ++ "\nTry '" ++ scope.path ++ " --help' for help.\n\nError: " ++ error.message ++ "\n"

end UsageError

end CallSites.CommandLine
