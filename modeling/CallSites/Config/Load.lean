/-
  CallSites.Config.Load

  Building matchers from configurations. Loading compiles patterns, keeps to the length limits and
  checks descriptors. What it logs is part of the outcome, up to the point where it fails.
-/
import CallSites.Config.Basic
import CallSites.Descriptor.Read

namespace CallSites

/-! ## Limits -/

/-- The largest number of characters of a literal name or a descriptor. -/
def maxNameLength : Nat := 8192

/-- The largest number of characters of a pattern. -/
def maxPatternLength : Nat := 4096

/-! ## The log -/

/-- What happens while matchers are loaded. -/
inductive LogEntry where
  | classPattern (pattern : Text)
  | methodPattern (pattern : Text)
  /-- A matcher was built; its description. -/
  | matcher (description : Text)
  /-- All matchers of a file were built. -/
  | file (count : Nat) (path : String)
  deriving DecidableEq, Repr

/-- The line of the log. -/
def LogEntry.line : LogEntry → Text
  | .classPattern pattern =>
    "DEBUG invmatch._class_matchers: compiled class pattern " ++ Text.quote pattern
  | .methodPattern pattern =>
    "DEBUG invmatch._method_matchers: compiled method pattern " ++ Text.quote pattern
  | .matcher description => "DEBUG invmatch._config: loaded matcher: " ++ description
  | .file count path =>
    "DEBUG invmatch.cli: loaded " ++ toString count ++ " matcher(s) from " ++ path

/-- An outcome with what was logged on the way to it. -/
structure Logged (α : Type) where
  log : List LogEntry
  outcome : Except MatcherError α

namespace Logged

/-- Continues after success. The log of the second step follows that of the first. -/
def bind {α β : Type} (first : Logged α) (next : α → Logged β) : Logged β :=
  match first.outcome with
  | .error error => ⟨first.log, .error error⟩
  | .ok value => ⟨first.log ++ (next value).log, (next value).outcome⟩

instance : Monad Logged where
  pure value := ⟨[], .ok value⟩
  bind := bind

/-- A step that logs nothing. -/
def ofExcept {α : Type} (outcome : Except MatcherError α) : Logged α :=
  ⟨[], outcome⟩

/-- A step that only logs. -/
def tell (entry : LogEntry) : Logged Unit :=
  ⟨[entry], .ok ()⟩

/-- The outcome does not depend on what is logged. -/
@[simp] theorem outcome_bind {α β : Type} (first : Logged α) (next : α → Logged β) :
    (first >>= next).outcome = first.outcome >>= fun value => (next value).outcome := by
  obtain ⟨log, outcome⟩ := first
  cases outcome <;> rfl

theorem bind_of_ok {α β : Type} {first : Logged α} {value : α} (h : first.outcome = .ok value)
    (next : α → Logged β) :
    first >>= next = ⟨first.log ++ (next value).log, (next value).outcome⟩ := by
  obtain ⟨log, outcome⟩ := first
  cases h
  rfl

theorem bind_of_error {α β : Type} {first : Logged α} {error : MatcherError}
    (h : first.outcome = .error error) (next : α → Logged β) :
    first >>= next = ⟨first.log, .error error⟩ := by
  obtain ⟨log, outcome⟩ := first
  cases h
  rfl

@[simp] theorem outcome_pure {α : Type} (value : α) :
    (pure value : Logged α).outcome = .ok value := rfl

@[simp] theorem outcome_ofExcept {α : Type} (outcome : Except MatcherError α) :
    (ofExcept outcome).outcome = outcome := rfl

@[simp] theorem outcome_tell (entry : LogEntry) : (tell entry).outcome = .ok () := rfl

end Logged

/-! ## Loading -/

namespace MatcherConfig

/-- Refuses a text of more than `maximum` characters. -/
def checkLength (maximum : Nat) (text : Text) : Except MatcherError Unit :=
  if maximum < text.length then .error (.tooLong text.length maximum) else .ok ()

/-- Compiles a pattern within its limit and logs that. -/
def loadPattern (entry : Text → LogEntry) (text : Text) : Logged Regex.Pattern := do
  Logged.ofExcept (checkLength maxPatternLength text)
  let pattern ← Logged.ofExcept (compilePattern text)
  Logged.tell (entry text)
  return pattern

/-- The class matcher of a choice. A literal name is put into the format. -/
def loadClass (format : NameFormat) (choice : ClassChoice) : Logged ClassMatcher :=
  if choice.variant = "exact" then do
    Logged.ofExcept (checkLength maxNameLength choice.value)
    return .exact (format.normalize choice.value)
  else if choice.variant = "regex" then do
    return .regex (← loadPattern .classPattern choice.value)
  else .ofExcept (.error (.config (.unknownClassVariant choice.variant)))

/-- The method matcher of a choice. A missing descriptor counts as an empty one. -/
def loadMethod (choice : MethodChoice) : Logged MethodMatcher :=
  if choice.variant = "name" then do
    Logged.ofExcept (checkLength maxNameLength choice.value)
    return .named choice.value
  else if choice.variant = "regex" then do
    return .regex (← loadPattern .methodPattern choice.value)
  else if choice.variant = "signature" then do
    let descriptor := choice.descriptor.getD (.ofString "")
    Logged.ofExcept (checkLength maxNameLength choice.value)
    Logged.ofExcept (checkLength maxNameLength descriptor)
    let _ ← Logged.ofExcept ((MethodDescriptor.read descriptor).mapError .invalidDescriptor)
    return .signature choice.value descriptor
  else .ofExcept (.error (.config (.unknownMethodVariant choice.variant)))

/-- The matcher of a configuration: the class first, then the method. -/
def load (config : MatcherConfig) : Logged Matcher := do
  let classes ← loadClass config.format config.classes
  let methods ← loadMethod config.methods
  let matcher ← Logged.ofExcept (Matcher.ofParts classes methods config.format)
  Logged.tell (.matcher matcher.describe)
  return matcher

/-- The matchers of several configurations, up to the first that fails. -/
def loadAll : List MatcherConfig → Logged (List Matcher)
  | [] => pure []
  | config :: configs => do
    let matcher ← load config
    let matchers ← loadAll configs
    return matcher :: matchers

end MatcherConfig

/-- The matchers of a document. Its whole shape is checked before the first of them is built. -/
def loadMatchers (document : Value) : Logged (List Matcher) := do
  let configs ← Logged.ofExcept (MatcherConfig.listOfValue document)
  if maxMatchers < configs.length then
    Logged.ofExcept (.error (.config (.tooManyMatchers configs.length)))
  else MatcherConfig.loadAll configs

end CallSites
