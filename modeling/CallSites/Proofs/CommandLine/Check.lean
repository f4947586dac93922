/-
  CallSites.Proofs.CommandLine.Check

  What a check prints and how it exits, for any bytes of the configuration file and any reader of
  documents. It answers exactly if the file loads. A file that does not load is reported with an
  exit code of its own, except where an exception is raised that the program does not catch: it ends
  the check with the exit code of a file without a match, and only the missing answer tells the two
  apart.
-/
import CallSites.CommandLine.Run
import CallSites.Proofs.Config.Raised
import CallSites.Proofs.Text.Utf8
import CallSites.Yaml.Reader

namespace CallSites.CommandLine

/-! ## Questions -/

/-- What a check asks for: a class, or a method of it by name, or one with its descriptor. -/
inductive Query where
  | ofClass (cls : String)
  | ofName (cls name : String)
  | ofDescriptor (cls name descriptor : String)
  deriving DecidableEq, Repr

namespace Query

/-- The arguments that follow the configuration. -/
def arguments : Query → List String
  | ofClass cls => [cls]
  | ofName cls name => [cls, name]
  | ofDescriptor cls name descriptor => [cls, name, descriptor]

def cls : Query → Text
  | ofClass cls | ofName cls _ | ofDescriptor cls _ _ => cls

/-- The method, if one is named. A descriptor that is not given is empty. -/
def method : Query → Option (Text × Text)
  | ofClass _ => none
  | ofName _ name => some (name, "")
  | ofDescriptor _ name descriptor => some (name, descriptor)

/-- Whether a matcher by itself accepts what is asked for. -/
def acceptedBy (query : Query) (matcher : Matcher) : Bool :=
  matcher.accepts query.cls query.method

end Query

/-- An argument that is no option: it does not begin with a hyphen, or is one. -/
def IsOperand (argument : String) : Prop :=
  argument = "-" ∨ argument.toList.head? ≠ some '-'

theorem IsOperand.isOption {argument : String} (h : IsOperand argument) :
    isOption argument = false := by
  rcases h with rfl | h
  · rfl
  · unfold CommandLine.isOption
    split
    · next heq => simp [heq] at h
    · rfl

theorem IsOperand.ne_end {argument : String} (h : IsOperand argument) : argument ≠ "--" := by
  rintro rfl
  rcases h with h | h
  · exact absurd h (by decide)
  · exact h rfl

/-- Operands are left as they are, wherever options may stand. -/
theorem splitArguments_operands (scope : Scope) {arguments : List String}
    (h : ∀ argument ∈ arguments, IsOperand argument) :
    splitArguments scope true arguments = .ok ([], arguments) := by
  induction arguments with
  | nil => rfl
  | cons argument rest ih =>
    have hfirst := h argument List.mem_cons_self
    have hrest := ih fun other hmem => h other (List.mem_cons_of_mem _ hmem)
    rw [splitArguments, if_neg hfirst.ne_end, hfirst.isOption, hrest]
    rfl

/-- A check with operands only is run on the file at its path. -/
theorem endRun_check {env : Environment} {path : String} {contents : Contents} {query : Query}
    (hfile : env.files path = .file contents)
    (hoperands : ∀ argument ∈ path :: query.arguments, IsOperand argument) :
    endRun env ("check" :: path :: query.arguments) =
      endCheck env.reader false path contents query.cls query.method := by
  have hprogram : splitArguments .program false ("check" :: path :: query.arguments) =
      .ok ([], "check" :: path :: query.arguments) := rfl
  have hrequest : checkRequest env.files false (path :: query.arguments) =
      .check false path contents query.cls query.method := by
    rw [checkRequest, hfile]
    cases query <;> rfl
  rw [endRun, readRequest, if_neg (List.cons_ne_nil _ _), hprogram]
  change (commandRequest env.files false .check (path :: query.arguments)).ending env.reader = _
  rw [commandRequest, splitArguments_operands .check hoperands]
  exact congrArg (Request.ending env.reader) hrequest

/-! ## Files that load -/

/-- The bytes are the encoding of a text, in which the reader finds a document, which loads. -/
def Loads (reader : DocumentReader) (bytes : List UInt8) (matchers : List Matcher) : Prop :=
  ∃ text document, Text.Utf8.encode text = bytes ∧ reader.read text = .ok document ∧
    (loadMatchers document).outcome = .ok matchers

/-- An exception that the program does not catch is raised for the bytes. -/
inductive Escapes (reader : DocumentReader) (bytes : List UInt8) (exception : Exception) :
    Prop where
  /-- The reader raises it. -/
  | reading : reader.readBytes bytes = .error (.raised exception) → Escapes reader bytes exception
  /-- The reader finds a document, and loading the matchers of it raises the exception. -/
  | loading {document : Value} :
      reader.readBytes bytes = .ok document →
      (loadMatchers document).outcome = .error (.raised exception) →
      Escapes reader bytes exception

variable {reader : DocumentReader} {bytes : List UInt8}

theorem readBytes_eq_ok_iff {document : Value} :
    reader.readBytes bytes = .ok document ↔
      ∃ text, Text.Utf8.encode text = bytes ∧ reader.read text = .ok document := by
  simp only [← Text.Utf8.decode_eq_ok_iff, DocumentReader.readBytes]
  cases Text.Utf8.decode bytes with
  | error refusal => simp
  | ok text => simp

theorem readDocument_eq_ok_iff {document : Value} :
    readDocument reader (.ok bytes) = .ok document ↔
      ∃ text, Text.Utf8.encode text = bytes ∧ reader.read text = .ok document := by
  rw [readDocument, mapError_eq_ok_iff, readBytes_eq_ok_iff]

/-- Without a document nothing is loaded or logged. -/
theorem loadFile_of_error {path : String} {contents : Contents} {error : FileError}
    (h : readDocument reader contents = .error error) :
    loadFile reader path contents = ([], .error error) := by
  rw [loadFile, h]

theorem loadFile_eq_ok_iff (path : String) {matchers : List Matcher} :
    (loadFile reader path (.ok bytes)).2 = .ok matchers ↔ Loads reader bytes matchers := by
  have hloads : Loads reader bytes matchers ↔
      ∃ document, readDocument reader (.ok bytes) = .ok document ∧
        (loadMatchers document).outcome = .ok matchers := by
    simp only [Loads, readDocument_eq_ok_iff]
    tauto
  rw [hloads]
  cases hdocument : readDocument reader (.ok bytes) with
  | error error =>
    rw [loadFile_of_error hdocument]
    simp
  | ok document =>
    rw [loadFile, hdocument]
    cases hloaded : (loadMatchers document).outcome <;> simp [hloaded]

/-- The exception of a file error that is not explained. -/
theorem explain_eq_error_iff {error : FileError} {exception : Exception} :
    error.explain = .error exception ↔
      error = .document (.raised exception) ∨ error = .matcher (.raised exception) := by
  cases error with
  | unreadable reason => simp [FileError.explain]
  | document failure => cases failure <;> simp [FileError.explain]
  | matcher error => cases error <;> simp [FileError.explain]

/-- The failures of a file that are not explained are the exceptions that escape. -/
theorem loadFile_unexplained_iff (path : String) {exception : Exception} :
    (∃ error, (loadFile reader path (.ok bytes)).2 = .error error ∧
      error.explain = .error exception) ↔ Escapes reader bytes exception := by
  simp only [explain_eq_error_iff]
  -- Either the reader fails, and then nothing is loaded, or loading its document does.
  cases hread : reader.readBytes bytes with
  | error failure =>
    have hdocument : readDocument reader (.ok bytes) = .error (.document failure) := by
      rw [readDocument, hread]
      rfl
    rw [loadFile_of_error hdocument]
    refine ⟨?_, ?_⟩
    · rintro ⟨_, hfailure, rfl | rfl⟩
      · cases hfailure
        exact .reading hread
      · cases hfailure
    · rintro (hraised | ⟨hdocument, -⟩)
      · rw [hread] at hraised
        cases hraised
        exact ⟨_, rfl, .inl rfl⟩
      · rw [hread] at hdocument
        cases hdocument
  | ok document =>
    have hdocument : readDocument reader (.ok bytes) = .ok document := by
      rw [readDocument, hread]
      rfl
    rw [loadFile, hdocument]
    refine ⟨?_, ?_⟩
    · rintro ⟨error, herror, hkind⟩
      cases hloaded : (loadMatchers document).outcome with
      | ok matchers => simp [hloaded] at herror
      | error fault =>
        simp only [hloaded, Except.error.injEq] at herror
        subst herror
        rcases hkind with hkind | hkind
        · cases hkind
        · cases hkind
          exact .loading hread hloaded
    · rintro (hraised | ⟨hfound, hloaded⟩)
      · rw [hread] at hraised
        cases hraised
      · rw [hread] at hfound
        cases hfound
        exact ⟨.matcher (.raised exception), by simp only [hloaded], .inr rfl⟩

/-! ## Messages -/

theorem withoutColours_cons {c : Char} (h : c ≠ '\x1b') (rest : List Char) :
    withoutColours 0 (c :: rest) = c :: withoutColours 0 rest := by
  rw [withoutColours]
  exact fun _ hc _ => h hc

/-- Every message says first that it is one. -/
theorem errorLine_prefix (message : String) : "Error: ".toList <+: (errorLine message).toList := by
  refine ⟨withoutColours 0 (message ++ "\n").toList, ?_⟩
  have htext : ("Error: " ++ message ++ "\n").toList =
      'E' :: 'r' :: 'r' :: 'o' :: 'r' :: ':' :: ' ' :: (message ++ "\n").toList := by
    simp [String.toList_append]
  rw [errorLine, printed, htext]
  iterate 7 rw [withoutColours_cons (by decide)]
  exact String.toList_ofList.symm

/-! ## Endings -/

variable (path : String) {matchers : List Matcher} {exception : Exception}

/-- A check of a file that loads answers whether one of its matchers accepts. -/
theorem endCheck_of_loads (h : Loads reader bytes matchers) (query : Query) :
    endCheck reader false path (.ok bytes) query.cls query.method =
      .exited
        (if matchers.any query.acceptedBy then ⟨0, "true\n", ""⟩ else ⟨1, "false\n", ""⟩) := by
  have hloaded := (loadFile_eq_ok_iff path).mpr h
  rw [endCheck]
  simp only [hloaded]
  show (if matchers.any query.acceptedBy = true then Ending.exited ⟨0, "true\n", ""⟩
    else Ending.exited ⟨1, "false\n", ""⟩) = _
  split <;> rfl

/-- An exception that is not caught ends a check. -/
theorem endCheck_of_escapes (h : Escapes reader bytes exception) (query : Query) :
    endCheck reader false path (.ok bytes) query.cls query.method = .raised exception "" := by
  obtain ⟨error, hload, hexplain⟩ := (loadFile_unexplained_iff path).mpr h
  rw [endCheck]
  simp only [hload, hexplain]
  rfl

/-- A check of any other file reports why it does not load. -/
theorem endCheck_of_not_loads (h : ∀ matchers, ¬ Loads reader bytes matchers)
    (hcaught : ∀ exception, ¬ Escapes reader bytes exception) (query : Query) :
    ∃ message, endCheck reader false path (.ok bytes) query.cls query.method =
      .exited ⟨2, "", errorLine message⟩ := by
  cases houtcome : (loadFile reader path (.ok bytes)).2 with
  | ok matchers => exact absurd ((loadFile_eq_ok_iff path).mp houtcome) (h matchers)
  | error error =>
    cases hexplain : error.explain with
    | error exception =>
      exact absurd ((loadFile_unexplained_iff path).mp ⟨error, houtcome, hexplain⟩)
        (hcaught exception)
    | ok message =>
      refine ⟨shownPath path ++ ": " ++ message, ?_⟩
      rw [endCheck]
      simp only [houtcome, hexplain]
      exact congrArg (fun text => Ending.exited ⟨2, "", text⟩) String.empty_append

theorem Escapes.not_loads (h : Escapes reader bytes exception) (matchers : List Matcher) :
    ¬ Loads reader bytes matchers := by
  intro hloads
  obtain ⟨error, hload, -⟩ := (loadFile_unexplained_iff "").mpr h
  rw [(loadFile_eq_ok_iff "").mpr hloads] at hload
  cases hload

/-- What an escaping exception is due to, in terms of the document alone. -/
theorem escapes_iff :
    Escapes reader bytes exception ↔
      reader.readBytes bytes = .error (.raised exception) ∨
        ∃ document, reader.readBytes bytes = .ok document ∧
          (exception = Decimal.unwritable ∧ MatcherConfig.RaisesInReading document ∨
            MatcherConfig.RaisesInLoading document exception) := by
  refine ⟨?_, ?_⟩
  · rintro (hread | ⟨hread, hloading⟩)
    · exact .inl hread
    · exact .inr ⟨_, hread, MatcherConfig.outcome_loadMatchers_eq_raised_iff.mp hloading⟩
  · rintro (hread | ⟨document, hread, hraises⟩)
    · exact .reading hread
    · exact .loading hread (MatcherConfig.outcome_loadMatchers_eq_raised_iff.mpr hraises)

/-! ## Runs of checks -/

section Runs

variable {env : Environment} {query : Query} {path : String}
  (hfile : env.files path = .file (.ok bytes))
  (hoperands : ∀ argument ∈ path :: query.arguments, IsOperand argument)
include hfile hoperands

theorem run_check_of_loads (h : Loads env.reader bytes matchers) :
    run env ("check" :: path :: query.arguments) =
      if matchers.any query.acceptedBy then ⟨0, "true\n", ""⟩ else ⟨1, "false\n", ""⟩ := by
  rw [run, endRun_check hfile hoperands, endCheck_of_loads path h]
  rfl

theorem endRun_check_of_escapes (h : Escapes env.reader bytes exception) :
    endRun env ("check" :: path :: query.arguments) = .raised exception "" :=
  (endRun_check hfile hoperands).trans (endCheck_of_escapes path h query)

theorem run_check_of_escapes (h : Escapes env.reader bytes exception) :
    run env ("check" :: path :: query.arguments) = ⟨1, "", env.traceback exception⟩ := by
  rw [run, endRun_check_of_escapes hfile hoperands h]
  exact congrArg (Output.mk 1 "") String.empty_append

theorem run_check_of_not_loads (h : ∀ matchers, ¬ Loads env.reader bytes matchers)
    (hcaught : ∀ exception, ¬ Escapes env.reader bytes exception) :
    ∃ message, run env ("check" :: path :: query.arguments) = ⟨2, "", errorLine message⟩ := by
  obtain ⟨message, hmessage⟩ := endCheck_of_not_loads path h hcaught query
  exact ⟨message, by rw [run, endRun_check hfile hoperands, hmessage]; rfl⟩

/-- An answer is printed for files that load only. -/
theorem exists_loads_of_stdout
    (h : (run env ("check" :: path :: query.arguments)).stdout ≠ "") :
    ∃ matchers, Loads env.reader bytes matchers := by
  by_contra hloads
  by_cases hcaught : ∃ exception, Escapes env.reader bytes exception
  · obtain ⟨exception, hexception⟩ := hcaught
    exact h (congrArg Output.stdout (run_check_of_escapes hfile hoperands hexception))
  · obtain ⟨message, hmessage⟩ := run_check_of_not_loads hfile hoperands
      (not_exists.mp hloads) (not_exists.mp hcaught)
    exact h (congrArg Output.stdout hmessage)

end Runs

/-- A directory that holds nothing but a configuration, with the reader of this program. -/
def configOnly (text : String) : Environment where
  files path := if path = "m.yaml" then .file (.ok (Text.Utf8.encode text.toList)) else .missing
  reader := Yaml.reader
  traceback := Exception.report

theorem isOperand_of_mem {arguments : List String}
    (h : arguments.all fun argument => argument.toList.head? ≠ some '-') :
    ∀ argument ∈ arguments, IsOperand argument :=
  fun argument hmem => .inr (of_decide_eq_true (List.all_eq_true.mp h argument hmem))

end CallSites.CommandLine
