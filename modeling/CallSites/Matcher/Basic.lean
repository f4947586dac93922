/-
  CallSites.Matcher.Basic

  A matcher pairs a test of classes with a test of methods. It is asked in two steps, once for a
  loaded class and then for each of its methods. Class names are put into the format of the matcher
  before the class test sees them.
-/
import CallSites.Matcher.Part

namespace CallSites

/-- Whether a literal class name is spelled in the format. -/
def ClassMatcher.IsSpelledIn (format : NameFormat) : ClassMatcher → Prop
  | .exact name => format.normalize name = name
  | .regex _ => True

instance (format : NameFormat) (classes : ClassMatcher) :
    Decidable (classes.IsSpelledIn format) :=
  match classes with
  | .exact name => inferInstanceAs (Decidable (format.normalize name = name))
  | .regex _ => inferInstanceAs (Decidable True)

/-- A test of classes and a test of methods, for class names in one format. -/
structure Matcher where
  classes : ClassMatcher
  methods : MethodMatcher
  format : NameFormat
  spelled : classes.IsSpelledIn format
  deriving DecidableEq

namespace Matcher

/-- The matcher with these parts. A literal class name in the other spelling is refused, since no
    name that is asked for would equal it. -/
def ofParts (classes : ClassMatcher) (methods : MethodMatcher) (format : NameFormat) :
    Except MatcherError Matcher :=
  match classes with
  | .regex pattern => .ok ⟨.regex pattern, methods, format, trivial⟩
  | .exact name =>
    if h : format.normalize name = name then .ok ⟨.exact name, methods, format, h⟩
    else .error (.misspelledClass name format)

/-! ## Questions -/

/-- Whether a class, named in either spelling, is in scope. -/
def acceptsClass (matcher : Matcher) (name : Text) : Bool :=
  matcher.classes.accepts (matcher.format.normalize name)

/-- Whether a method of a class in scope is counted. -/
def acceptsMethod (matcher : Matcher) (name descriptor : Text) : Bool :=
  matcher.methods.accepts name descriptor

/-- Whether a class is in scope and, if a method is given, whether that is counted. -/
def accepts (matcher : Matcher) (cls : Text) (method : Option (Text × Text)) : Bool :=
  matcher.acceptsClass cls &&
    match method with
    | none => true
    | some (name, descriptor) => matcher.acceptsMethod name descriptor

/-- The matcher in words. -/
def describe (matcher : Matcher) : Text :=
  matcher.classes.describe ++ ", " ++ matcher.methods.describe ++ " (" ++ matcher.format.word ++
    " names)"

/-! ## Common matchers -/

/-- The constructors of a class. -/
def allocations (cls : ClassHandle) (format : NameFormat) : Except MatcherError Matcher :=
  ofParts (.ofClass cls format) (.named constructorName) format

/-- All methods of one name in a class. -/
def forName (cls method : Text) (format : NameFormat) : Except MatcherError Matcher :=
  ofParts (.exact (format.normalize cls)) (.named method) format

/-- One method of a class. -/
def forMethod (cls : ClassHandle) (method : MethodHandle) (format : NameFormat) :
    Except MatcherError Matcher :=
  ofParts (.ofClass cls format) (.ofMethod method) format

/-- The methods whose names match one pattern, in the classes whose names match another. -/
def forPatterns (cls method : Text) (format : NameFormat) : Except MatcherError Matcher := do
  let classes ← compilePattern cls
  let methods ← compilePattern method
  ofParts (.regex classes) (.regex methods) format

end Matcher

end CallSites
