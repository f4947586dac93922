/-
  CallSites.CommandLine.Run

  What the program prints and how it exits. A check exits with 0 on a match and with 1 otherwise;
  a configuration that cannot be loaded exits with 2. An exception that the program does not catch
  ends a check with 1 as well, without an answer.
-/
import CallSites.CommandLine.Arguments
import CallSites.Config.Load

namespace CallSites.CommandLine

/-- What a run of the program leaves behind. -/
structure Output where
  exitCode : Nat
  stdout : String
  stderr : String
  deriving DecidableEq, Repr

/-- How a run of the program ends. -/
inductive Ending where
  | exited (output : Output)
  /-- An exception that nothing caught, and what was printed to standard error before it. -/
  | raised (exception : Exception) (log : String)
  deriving DecidableEq, Repr

/-- What the run leaves behind. The system reports an exception and exits with 1. -/
def Ending.output (env : Environment) : Ending → Output
  | .exited output => output
  | .raised exception log => ⟨1, "", log ++ env.traceback exception⟩

/-! ## Texts for the terminal -/

/-- The length of the end of a colour sequence: parameters and one letter. -/
private def sequenceEnd? (text : List Char) : Option Nat :=
  let parameters := text.takeWhile fun c => c == ';' || c == '?' || c.isDigit
  match text.drop parameters.length with
  | c :: _ => if c.isAlpha then some (parameters.length + 1) else none
  | [] => none

/-- The text without colour sequences, which only terminals understand. The first `skip`
    characters belong to one. -/
def withoutColours (skip : Nat) : List Char → List Char
  | [] => []
  | c :: rest =>
    match skip with
    | skip + 1 => withoutColours skip rest
    | 0 =>
      let length := match c, rest with
        | '\x1b', '[' :: rest => sequenceEnd? rest
        | _, _ => none
      match length with
      | some length => withoutColours (length + 1) rest
      | none => c :: withoutColours 0 rest

/-- A text as it is printed. -/
def printed (text : String) : String :=
  String.ofList (withoutColours 0 text.toList)

/-- The line of an error. -/
def errorLine (message : String) : String :=
  printed ("Error: " ++ message ++ "\n")

/-! ## Configuration files -/

/-- The parts of a path, without those that lead nowhere. -/
private def pathParts (path : Text) : List String :=
  let parts := (segments path.toList).filter fun part => part ≠ [] ∧ part ≠ [.char '.']
  parts.map fun part => Text.printed (.ofList part)

/-- A path as messages name it. -/
def shownPath (path : String) : String :=
  let root := match path.toList.takeWhile (· == '/') with
    | [] => ""
    | ['/', '/'] => "//"
    | _ => "/"
  let parts := pathParts path
  if parts = [] ∧ root = "" then "." else root ++ "/".intercalate parts

/-- Why a configuration file yields no matchers. -/
inductive FileError where
  /-- The system cannot open or read it, for this reason. -/
  | unreadable (reason : String)
  | document (failure : ReadFailure)
  | matcher (error : MatcherError)
  deriving DecidableEq, Repr

/-- The error in words, if it is one that is caught, or else the exception. -/
def FileError.explain : FileError → Except Exception String
  | .unreadable reason => .ok ("cannot read: " ++ reason)
  | .document (.undecodable reason) => .ok ("not valid UTF-8: " ++ reason)
  | .document (.invalid description) => .ok ("invalid YAML: " ++ description)
  | .document (.raised exception) => .error exception
  | .matcher (.raised exception) => .error exception
  | .matcher error => .ok error.message

/-- The document in a file. -/
def readDocument (reader : DocumentReader) (contents : Contents) : Except FileError Value :=
  match contents with
  | .error reason => .error (.unreadable reason)
  | .ok bytes => (reader.readBytes bytes).mapError .document

/-- The matchers of a file, and what is logged while they are loaded. -/
def loadFile (reader : DocumentReader) (path : String) (contents : Contents) :
    List LogEntry × Except FileError (List Matcher) :=
  match readDocument reader contents with
  | .error error => ([], .error error)
  | .ok document =>
    let loaded := loadMatchers document
    match loaded.outcome with
    | .error error => (loaded.log, .error (.matcher error))
    | .ok matchers => (loaded.log ++ [.file matchers.length (shownPath path)], .ok matchers)

/-! ## Running -/

/-- Prints the log to standard error if it is asked for. -/
def logText (verbose : Bool) (log : List LogEntry) : String :=
  if verbose then String.join (log.map fun entry => entry.line.printed ++ "\n") else ""

/-- How a check ends for a file with these contents. -/
def endCheck (reader : DocumentReader) (verbose : Bool) (path : String) (contents : Contents)
    (cls : Text) (method : Option (Text × Text)) : Ending :=
  let (log, outcome) := loadFile reader path contents
  let logged := logText verbose log
  match outcome with
  | .ok matchers =>
    if matchers.any (·.accepts cls method) then .exited ⟨0, "true\n", logged⟩
    else .exited ⟨1, "false\n", logged⟩
  | .error error =>
    match error.explain with
    | .ok message => .exited ⟨2, "", logged ++ errorLine (shownPath path ++ ": " ++ message)⟩
    | .error exception => .raised exception logged

private def runDescriptor (result : String) (parameters : List String) : Output :=
  let names := parameters.map fun name => TypeName.written (.ofString name)
  match MethodDescriptor.ofTypeNames names (.written result) with
  | .ok descriptor => ⟨0, printed (descriptor.text.printed ++ "\n"), ""⟩
  | .error error => ⟨2, "", errorLine error.message⟩

/-- How the program ends for a request. -/
def Request.ending (reader : DocumentReader) : Request → Ending
  | .help scope => .exited ⟨0, scope.help, ""⟩
  | .nothing => .exited ⟨2, "", Scope.program.help⟩
  | .misused scope error => .exited ⟨2, "", printed (error.report scope)⟩
  | .check verbose path contents cls method => endCheck reader verbose path contents cls method
  | .descriptor _ result parameters => .exited (runDescriptor result parameters)

/-- How the program ends with its arguments. -/
def endRun (env : Environment) (arguments : List String) : Ending :=
  (readRequest env.files arguments).ending env.reader

/-- What the program does with its arguments. -/
def run (env : Environment) (arguments : List String) : Output :=
  (endRun env arguments).output env

end CallSites.CommandLine
