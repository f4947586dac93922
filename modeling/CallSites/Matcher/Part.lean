/-
  CallSites.Matcher.Part

  The two halves of a matcher: which classes are in scope and which of their methods are counted.
  Both compare names as they are given.
-/
import CallSites.Descriptor.TypeName
import CallSites.Matcher.Error
import CallSites.Regex.Pattern

namespace CallSites

/-! ## Constructors and patterns -/

/-- The name of constructors. -/
def constructorName : String := "<init>"

/-- Compiles a pattern, which is encoded first. -/
def compilePattern (text : Text) : Except MatcherError Regex.Pattern :=
  match text.toString? with
  | none => .error (.raised (Text.unencodable text))
  | some text => (Regex.Pattern.compile text).mapError (.invalidPattern text)

/-- Whether a name is answered with yes by a pattern. A name that cannot be encoded gets no answer:
    asking raises an exception. -/
def Regex.Pattern.accepts (pattern : Regex.Pattern) (name : Text) : Bool :=
  name.toString?.any pattern.isMatch

@[simp] theorem Regex.Pattern.accepts_ofString (pattern : Regex.Pattern) (name : String) :
    pattern.accepts name = pattern.isMatch name := by
  rw [accepts, Text.toString?_ofString, Option.any_some]

theorem Regex.Pattern.accepts_iff {pattern : Regex.Pattern} {name : Text} :
    pattern.accepts name = true ↔
      ∃ string : String, name = string ∧ pattern.isMatch string = true := by
  simp only [accepts, Option.any_eq_true, Text.toString?_eq_some_iff]

/-! ## Classes -/

/-- Which classes are in scope. -/
inductive ClassMatcher where
  /-- The class of this name. -/
  | exact (name : Text)
  /-- The classes whose whole name matches. -/
  | regex (pattern : Regex.Pattern)
  deriving DecidableEq

namespace ClassMatcher

/-- Whether a class name is in scope. -/
def accepts : ClassMatcher → Text → Bool
  | .exact literal, name => name == literal
  | .regex pattern, name => pattern.accepts name

/-- The matcher of one class, its name spelled in the format. -/
def ofClass (cls : ClassHandle) (format : NameFormat) : ClassMatcher :=
  .exact (format.normalize cls.name)

/-- The matcher in words. -/
def describe : ClassMatcher → String
  | .exact name => "class == " ++ Text.quote name
  | .regex pattern => "class ~ /" ++ pattern.text ++ "/"

end ClassMatcher

/-! ## Methods -/

/-- Which methods of a class are counted. -/
inductive MethodMatcher where
  /-- All methods of this name. -/
  | named (name : Text)
  /-- The methods whose whole name matches. -/
  | regex (pattern : Regex.Pattern)
  /-- The one method of this name and descriptor. -/
  | signature (name descriptor : Text)
  deriving DecidableEq

namespace MethodMatcher

/-- Whether a method is counted. -/
def accepts : MethodMatcher → Text → Text → Bool
  | .named literal, name, _ => name == literal
  | .regex pattern, name, _ => pattern.accepts name
  | .signature literal expected, name, descriptor => name == literal && descriptor == expected

/-- The matcher of one method. -/
def ofMethod (method : MethodHandle) : MethodMatcher :=
  .signature method.name method.descriptor.text

/-- The matcher in words. -/
def describe : MethodMatcher → Text
  | .named name => "method == " ++ Text.quote name
  | .regex pattern => "method ~ /" ++ pattern.text ++ "/"
  | .signature name descriptor => "method == " ++ Text.quote name ++ descriptor

end MethodMatcher

end CallSites
