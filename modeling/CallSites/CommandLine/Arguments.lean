/-
  CallSites.CommandLine.Arguments

  Reading the arguments of the command line. Options of the program come before the command, those
  of a command anywhere after it, and none after a double hyphen.
-/
import CallSites.CommandLine.Environment
import CallSites.CommandLine.Usage
import CallSites.Text.Similar

namespace CallSites.CommandLine

/-! ## Options -/

/-- The options. None of them takes a value. -/
inductive Flag where
  | verbose
  | help
  deriving DecidableEq, Repr

private def Scope.longFlags : Scope → List (String × Flag)
  | .program => [("--help", .help), ("--verbose", .verbose)]
  | _ => [("--help", .help)]

private def Scope.shortFlags : Scope → List (Char × Flag)
  | .program => [('v', .verbose)]
  | _ => []

/-- The names that are similar to a word. -/
private def similarNames (word : String) (names : List String) : List String :=
  names.filter fun name => Text.areSimilar name word

/-- The flags behind the letters of one argument. -/
private def letterFlags (scope : Scope) : List Char → Except UsageError (List Flag)
  | [] => .ok []
  | c :: rest =>
    match scope.shortFlags.lookup c with
    | none => .error (.noSuchOption (String.ofList ['-', c]) [])
    | some flag => (letterFlags scope rest).map (flag :: ·)

/-- The flags in one argument that begins with a hyphen. -/
private def readFlags (scope : Scope) (argument : String) : Except UsageError (List Flag) :=
  let text := argument.toList
  let name := String.ofList (text.takeWhile (· != '='))
  match scope.longFlags.lookup name with
  | some flag => if '=' ∈ text then .error (.optionTakesNoValue name) else .ok [flag]
  | none =>
    match text with
    | '-' :: '-' :: _ =>
      .error (.noSuchOption name (similarNames name (scope.longFlags.map Prod.fst)))
    | _ => letterFlags scope (text.drop 1)

/-- Whether an argument is read as options. -/
def isOption (argument : String) : Bool :=
  match argument.toList with
  | '-' :: _ :: _ => true
  | _ => false

/-- The flags and the other arguments. With `mixed`, options may follow other arguments. -/
def splitArguments (scope : Scope) (mixed : Bool) :
    List String → Except UsageError (List Flag × List String)
  | [] => .ok ([], [])
  | argument :: rest =>
    if argument = "--" then .ok ([], rest)
    else if isOption argument then do
      let flags ← readFlags scope argument
      let (more, others) ← splitArguments scope mixed rest
      return (flags ++ more, others)
    else if mixed then
      (splitArguments scope mixed rest).map fun (flags, others) => (flags, argument :: others)
    else .ok ([], argument :: rest)

/-! ## Requests -/

/-- What the arguments ask for. -/
inductive Request where
  /-- Help was asked for. -/
  | help (scope : Scope)
  /-- Nothing was asked for. -/
  | nothing
  | misused (scope : Scope) (error : UsageError)
  /-- A class, and a method if it is named, against the configuration in a file. -/
  | check (verbose : Bool) (path : String) (contents : Contents) (cls : Text)
      (method : Option (Text × Text))
  | descriptor (verbose : Bool) (result : String) (parameters : List String)

/-- The request for a check with these arguments. The file is looked for before anything else is
    missed. -/
def checkRequest (files : String → Entry) (verbose : Bool) (arguments : List String) :
    Request :=
  let misused := Request.misused .check
  match arguments with
  | [] => misused (.missingArgument "CONFIG")
  | path :: rest =>
    match files path with
    | .missing => misused (.noSuchFile path)
    | .directory => misused (.fileIsDirectory path)
    | .unreadable => misused (.fileNotReadable path)
    | .file contents =>
      match rest with
      | [] => misused (.missingArgument "CLASS_NAME")
      | [cls] => .check verbose path contents cls none
      | [cls, method] => .check verbose path contents cls (some (method, ""))
      | [cls, method, descriptor] => .check verbose path contents cls (some (method, descriptor))
      | _ :: _ :: _ :: extra => misused (.extraArguments extra)

/-- The request of a command with its arguments. -/
def commandRequest (files : String → Entry) (verbose : Bool) (scope : Scope)
    (arguments : List String) : Request :=
  match splitArguments scope true arguments with
  | .error error => .misused scope error
  | .ok (flags, others) =>
    if .help ∈ flags then .help scope
    else if scope = .check then checkRequest files verbose others
    else match others with
      | [] => .misused scope (.missingArgument "RETURN_TYPE")
      | result :: parameters => .descriptor verbose result parameters

/-- The request behind an unknown command. If it looks like an option, it is read as one first. -/
private def unknownCommand (name : String) (rest : List String) : Request :=
  let unknown := Request.misused .program
    (.noSuchCommand name (similarNames name Scope.commandNames))
  if isOption name then
    match splitArguments .program false (name :: rest) with
    | .error error => .misused .program error
    | .ok (flags, _) => if .help ∈ flags then .help .program else unknown
  else unknown

/-- What the arguments ask for, given what stands at each path. -/
def readRequest (files : String → Entry) (arguments : List String) : Request :=
  if arguments = [] then .nothing
  else match splitArguments .program false arguments with
    | .error error => .misused .program error
    | .ok (flags, others) =>
      if .help ∈ flags then .help .program
      else match others with
        | [] => .misused .program .missingCommand
        | name :: rest =>
          match Scope.ofCommand? name with
          | some scope => commandRequest files (.verbose ∈ flags) scope rest
          | none => unknownCommand name rest

/-- The path that reading the arguments looks at, if it looks at one. -/
def configPath? (arguments : List String) : Option String :=
  match splitArguments .program false arguments with
  | .ok (_, "check" :: rest) =>
    match splitArguments .check true rest with
    | .ok (_, others) => others.head?
    | .error _ => none
  | _ => none

end CallSites.CommandLine
