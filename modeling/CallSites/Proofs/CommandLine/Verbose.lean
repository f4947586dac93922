/-
  CallSites.Proofs.CommandLine.Verbose

  The verbose option only observes. It stands before the command and is handed on to the request,
  where nothing but the printing of the log depends on it. So a verbose run ends as the quiet run
  of the same command does and prints the same answer, and its messages come after the log. The log
  is that of loading the document, up to where that succeeds or fails. Two processes may go through
  a set in different orders, which shows where a message quotes one and nowhere else.
-/
import CallSites.Proofs.CommandLine.Check
import CallSites.Proofs.Config.Sets

namespace CallSites.CommandLine

variable (files : String → Entry) (reader : DocumentReader)

/-! ## Requests -/

namespace Request

/-- The same request, with its log printed or not. -/
def setVerbose (verbose : Bool) : Request → Request
  | .check _ path contents cls method => .check verbose path contents cls method
  | .descriptor _ result parameters => .descriptor verbose result parameters
  | request => request

/-- What is logged for a request, whether it is printed or not. Only a check loads anything. -/
def log : Request → List LogEntry
  | .check _ path contents _ _ => (loadFile reader path contents).1
  | _ => []

/-- The request is to check a class against the configuration in a file. -/
def Checks (request : Request) (path : String) (contents : Contents) : Prop :=
  ∃ verbose cls method, request = .check verbose path contents cls method

theorem log_of_checks {request : Request} {path : String} {contents : Contents}
    (h : request.Checks path contents) :
    request.log reader = (loadFile reader path contents).1 := by
  obtain ⟨verbose, cls, method, rfl⟩ := h
  rfl

theorem log_of_not_checks {request : Request}
    (h : ∀ path contents, ¬ request.Checks path contents) : request.log reader = [] := by
  cases request with
  | check verbose path contents cls method =>
    exact absurd ⟨verbose, cls, method, rfl⟩ (h path contents)
  | _ => rfl

end Request

theorem checkRequest_setVerbose (verbose : Bool) (arguments : List String) :
    checkRequest files verbose arguments =
      (checkRequest files false arguments).setVerbose verbose := by
  cases arguments with
  | nil => rfl
  | cons path rest =>
    cases hentry : files path with
    | missing => simp only [checkRequest, hentry, Request.setVerbose]
    | directory => simp only [checkRequest, hentry, Request.setVerbose]
    | unreadable => simp only [checkRequest, hentry, Request.setVerbose]
    | file contents =>
      simp only [checkRequest, hentry]
      -- One case for each number of arguments, up to the first that is one too many.
      rcases rest with _ | ⟨cls, _ | ⟨method, _ | ⟨descriptor, _ | ⟨extra, more⟩⟩⟩⟩ <;> rfl

/-- Reading the arguments of a command hands the option on and does not look at it. -/
theorem commandRequest_setVerbose (verbose : Bool) (scope : Scope) (arguments : List String) :
    commandRequest files verbose scope arguments =
      (commandRequest files false scope arguments).setVerbose verbose := by
  unfold commandRequest
  split
  · rfl
  · next flags others _ =>
    split
    · rfl
    · split
      · exact checkRequest_setVerbose files verbose others
      · cases others <;> rfl

/-- Behind a command there is one request, which the option before the command makes verbose. -/
theorem exists_commandRequest {command : String} (hcommand : command ∈ ["check", "descriptor"])
    (rest : List String) :
    ∃ scope, (scope = .check → command = "check") ∧
      readRequest files (command :: rest) = commandRequest files false scope rest ∧
      readRequest files ("-v" :: command :: rest) =
        (commandRequest files false scope rest).setVerbose true := by
  rcases List.mem_pair.mp hcommand with rfl | rfl
  · exact ⟨.check, fun _ => rfl, rfl, commandRequest_setVerbose files true .check rest⟩
  · exact ⟨.descriptor, nofun, rfl, commandRequest_setVerbose files true .descriptor rest⟩

/-! ## Output -/

/-- The ending with a log before the messages. -/
def Ending.after (log : String) : Ending → Ending
  | .exited output => .exited ⟨output.exitCode, output.stdout, log ++ output.stderr⟩
  | .raised exception messages => .raised exception (log ++ messages)

theorem Ending.output_after (env : Environment) (log : String) (ending : Ending) :
    (ending.after log).output env =
      let output := ending.output env
      ⟨output.exitCode, output.stdout, log ++ output.stderr⟩ := by
  cases ending with
  | exited output => rfl
  | raised exception messages =>
    exact congrArg (Output.mk 1 "") String.append_assoc

/-- A log that is printed stands before the other messages, and nothing else depends on it. -/
theorem endCheck_verbose (path : String) (contents : Contents) (cls : Text)
    (method : Option (Text × Text)) :
    endCheck reader true path contents cls method =
      (endCheck reader false path contents cls method).after
        (logText true (loadFile reader path contents).1) := by
  have hempty : ∀ log, logText false log = "" := fun _ => rfl
  rcases hload : loadFile reader path contents with ⟨log, outcome⟩
  simp only [endCheck, hload, hempty, String.empty_append]
  cases outcome with
  | ok matchers =>
    by_cases hany : (matchers.any fun matcher => matcher.accepts cls method) = true
    · simp only [hany, if_true, Ending.after, String.append_empty]
    · simp only [hany, Bool.false_eq_true, if_false, Ending.after, String.append_empty]
  | error error =>
    cases hexplain : error.explain with
    | ok message => simp only [hexplain, Ending.after]
    | error exception => simp only [hexplain, Ending.after, String.append_empty]

namespace Request

/-- A verbose request ends as the quiet one, with the log before the messages. -/
theorem ending_setVerbose (request : Request) :
    (request.setVerbose true).ending reader =
      ((request.setVerbose false).ending reader).after (logText true (request.log reader)) := by
  have hnothing : logText true [] = "" := rfl
  have hafter (output : Output) : (Ending.exited output).after "" = .exited output := by
    simp only [Ending.after, String.empty_append]
  cases request with
  | check verbose path contents cls method => exact endCheck_verbose reader path contents cls method
  | _ =>
    simp only [log, hnothing, setVerbose, ending]
    exact (hafter _).symm

end Request

/-! ## What is loaded -/

variable {files reader} {path : String} {contents : Contents}

theorem checkRequest_checks {verbose : Bool} {arguments : List String}
    (h : (checkRequest files verbose arguments).Checks path contents) :
    files path = .file contents := by
  obtain ⟨verbose', cls, method, h⟩ := h
  cases arguments with
  | nil => cases h
  | cons first rest =>
    cases hentry : files first with
    | file found =>
      simp only [checkRequest, hentry] at h
      rcases rest with _ | ⟨cls, _ | ⟨method, _ | ⟨descriptor, _ | ⟨extra, more⟩⟩⟩⟩ <;>
        cases h <;> exact hentry
    | _ => simp [checkRequest, hentry] at h

/-- Only a check asks for the configuration in a file, and for one that is there. -/
theorem commandRequest_checks {scope : Scope} {arguments : List String}
    (h : (commandRequest files false scope arguments).Checks path contents) :
    scope = .check ∧ files path = .file contents := by
  unfold commandRequest at h
  split at h
  · obtain ⟨_, _, _, h⟩ := h
    cases h
  · next flags others _ =>
    split at h
    · obtain ⟨_, _, _, h⟩ := h
      cases h
    · split at h
      · next hscope => exact ⟨hscope, checkRequest_checks h⟩
      · obtain ⟨_, _, _, h⟩ := h
        cases others <;> cases h

theorem log_loadFile_of_failed {document : Value} {error : MatcherError}
    (hdocument : readDocument reader contents = .ok document)
    (hloaded : (loadMatchers document).outcome = .error error) :
    (loadFile reader path contents).1 = (loadMatchers document).log := by
  simp only [loadFile, hdocument, hloaded]

theorem log_loadFile_of_loaded {document : Value} {matchers : List Matcher}
    (hdocument : readDocument reader contents = .ok document)
    (hloaded : (loadMatchers document).outcome = .ok matchers) :
    (loadFile reader path contents).1 =
      (loadMatchers document).log ++ [.file matchers.length (shownPath path)] := by
  simp only [loadFile, hdocument, hloaded]

/-- Every line of a log says what it is. -/
theorem exists_line_eq (entry : LogEntry) : ∃ text : Text, entry.line = "DEBUG " ++ text := by
  have hline (front : String) (text : Text) :
      Text.ofString ("DEBUG " ++ front) ++ text = "DEBUG " ++ (Text.ofString front ++ text) := by
    rw [Text.ofString_append, Text.append_assoc]
  cases entry with
  | classPattern pattern =>
    exact ⟨_, hline "invmatch._class_matchers: compiled class pattern " (Text.quote pattern)⟩
  | methodPattern pattern =>
    exact ⟨_, hline "invmatch._method_matchers: compiled method pattern " (Text.quote pattern)⟩
  | matcher description => exact ⟨_, hline "invmatch._config: loaded matcher: " description⟩
  | file count path =>
    have hline' (a b c : Text) : Text.ofString "DEBUG invmatch.cli: loaded " ++ a ++ b ++ c =
        "DEBUG " ++ (Text.ofString "invmatch.cli: loaded " ++ a ++ b ++ c) := by
      rw [Text.append_assoc, Text.append_assoc, Text.append_assoc, Text.append_assoc]
      exact hline "invmatch.cli: loaded " _
    exact ⟨_, hline' _ _ _⟩

/-! ## The order of sets -/

/-- Two environments of the same files and libraries, in which sets may be gone through in
    different orders. -/
structure Environment.Alike (env other : Environment) : Prop where
  files : env.files = other.files
  read (text : List Char) : Related Value.Alike Eq (env.reader.read text) (other.reader.read text)
  refuse : env.reader.refuse = other.reader.refuse
  traceback : env.traceback = other.traceback

/-- The error for a value that is no format and is shown as this text. -/
def formatError (path shown : String) : Output :=
  ⟨2, "", errorLine (shownPath path ++ ": " ++ (ConfigFault.unknownFormat shown).message)⟩

variable {env other : Environment}

theorem Environment.Alike.output_eq (h : env.Alike other) (ending : Ending) :
    ending.output other = ending.output env := by
  cases ending with
  | exited output => rfl
  | raised exception log => rw [Ending.output, Ending.output, h.traceback]

theorem Environment.Alike.readDocument (h : env.Alike other) (contents : Contents) :
    Related Value.Alike Eq (readDocument env.reader contents)
      (readDocument other.reader contents) := by
  cases contents with
  | error reason => exact .error rfl
  | ok bytes =>
    show Related _ _ (Except.mapError _ _) (Except.mapError _ _)
    rw [DocumentReader.readBytes, DocumentReader.readBytes]
    cases Text.Utf8.decode bytes with
    | error refusal => exact .error (by rw [h.refuse])
    | ok text =>
      have hread := h.read text
      simp only
      generalize env.reader.read text = outcome at hread ⊢
      generalize other.reader.read text = outcome' at hread ⊢
      cases hread with
      | ok halike => exact .ok halike
      | error hfailure => exact .error (congrArg FileError.document hfailure)

/-- A file is loaded alike, unless a set is quoted. -/
theorem Environment.Alike.loadFile (h : env.Alike other) (path : String) (contents : Contents) :
    loadFile env.reader path contents = loadFile other.reader path contents ∨
      ∃ shown shown', MatcherConfig.ShownAlike shown shown' ∧
        loadFile env.reader path contents =
          ([], .error (.matcher (.config (.unknownFormat shown)))) ∧
        loadFile other.reader path contents =
          ([], .error (.matcher (.config (.unknownFormat shown')))) := by
  have hdocument := h.readDocument contents
  rw [CommandLine.loadFile, CommandLine.loadFile]
  generalize CommandLine.readDocument env.reader contents = document at hdocument ⊢
  generalize CommandLine.readDocument other.reader contents = document' at hdocument ⊢
  cases hdocument with
  | error hfailure => exact .inl (by rw [hfailure])
  | ok halike =>
    rcases MatcherConfig.loadMatchers_alike halike with
      hsame | ⟨shown, shown', hshown, hload, hload'⟩
    · exact .inl (by simp only [hsame])
    · simp only [hload, hload']
      exact .inr ⟨shown, shown', hshown, rfl, rfl⟩

theorem endCheck_of_unknownFormat {shown : String}
    (hload : CommandLine.loadFile reader path contents =
      ([], .error (.matcher (.config (.unknownFormat shown)))))
    (cls : Text) (method : Option (Text × Text)) :
    endCheck reader false path contents cls method = .exited (formatError path shown) := by
  have hexplain : FileError.explain (.matcher (.config (.unknownFormat shown))) =
      .ok (ConfigFault.unknownFormat shown).message := rfl
  have hlog : logText false [] = "" := rfl
  rw [endCheck, hload]
  simp only [hexplain, hlog, String.empty_append, formatError]

/-- A quiet request ends alike in both environments and logs the same, unless a set is quoted. -/
theorem Environment.Alike.ending_eq_or (h : env.Alike other) {request : Request}
    (hquiet : request.setVerbose false = request) :
    (request.ending env.reader = request.ending other.reader ∧
        request.log env.reader = request.log other.reader) ∨
      ∃ path shown shown', MatcherConfig.ShownAlike shown shown' ∧
        request.log env.reader = [] ∧ request.log other.reader = [] ∧
        request.ending env.reader = .exited (formatError path shown) ∧
        request.ending other.reader = .exited (formatError path shown') := by
  cases request with
  | check verbose path contents cls method =>
    obtain rfl : false = verbose := by
      injection hquiet
    simp only [Request.ending, Request.log]
    rcases h.loadFile path contents with hsame | ⟨shown, shown', hshown, hload, hload'⟩
    · refine .inl ⟨?_, congrArg Prod.fst hsame⟩
      rw [endCheck, endCheck, hsame]
    · rw [endCheck_of_unknownFormat hload, endCheck_of_unknownFormat hload', hload, hload']
      exact .inr ⟨path, shown, shown', hshown, rfl, rfl, rfl, rfl⟩
  | _ =>
    simp only [Request.ending, Request.log]
    exact .inl ⟨trivial, trivial⟩

/-- A file of any contents, in which the reader finds a set in place of a format. -/
def quotingSet (items : List Value) : Environment where
  files _ := .file (.ok [])
  reader := ⟨fun _ => .ok (.map [(.str "class_name_format", .set items)]),
    fun _ refusal => .undecodable refusal.message⟩
  traceback := Exception.report

end CallSites.CommandLine
