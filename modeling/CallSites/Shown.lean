/-
  CallSites.Shown

  The printed form of handles, matchers and configurations: the name of the kind of value with its
  fields. Texts are quoted, so values with different fields print differently.
-/
import CallSites.Config.Basic

namespace CallSites

/-- A value shown by the name of its kind and its named fields. -/
def record (kind : String) (fields : List (String × String)) : String :=
  kind ++ "(" ++ ", ".intercalate (fields.map fun field => field.1 ++ "=" ++ field.2) ++ ")"

/-- A sequence in parentheses. A single item is followed by a comma. -/
def sequence : List String → String
  | [item] => "(" ++ item ++ ",)"
  | items => "(" ++ ", ".intercalate items ++ ")"

/-! ## Handles -/

/-- The printed form of a class handle. -/
def ClassHandle.shown (cls : ClassHandle) : String :=
  record "ClassRef" [("name", Text.quote cls.name)]

/-- The printed form of a type name. -/
def TypeName.shown : TypeName → String
  | .written text => Text.quote text
  | .handle cls => cls.shown

/-- The printed form of a method handle. -/
def MethodHandle.shown (method : MethodHandle) : String :=
  record "MethodRef" [("name", Text.quote method.name),
    ("parameter_types", sequence (method.parameters.map TypeName.shown)),
    ("return_type", method.result.shown)]

/-! ## Matchers -/

/-- The printed form of a class matcher. -/
def ClassMatcher.shown : ClassMatcher → String
  | .exact name => record "ExactClassName" [("name", Text.quote name)]
  | .regex pattern => record "ClassRegex" [("pattern", Text.quote pattern.text)]

/-- The printed form of a method matcher. -/
def MethodMatcher.shown : MethodMatcher → String
  | .named name => record "ExactMethodName" [("name", Text.quote name)]
  | .regex pattern => record "MethodRegex" [("pattern", Text.quote pattern.text)]
  | .signature name descriptor =>
    record "FullSignature" [("name", Text.quote name), ("descriptor", Text.quote descriptor)]

/-- The printed form of a format. -/
def NameFormat.shown : NameFormat → String
  | .internal => "<ClassNameFormat.INTERNAL: 'internal'>"
  | .canonical => "<ClassNameFormat.CANONICAL: 'canonical'>"

/-- The printed form of a matcher. -/
def Matcher.shown (matcher : Matcher) : String :=
  record "InvocationCountMatcher" [("class_matcher", matcher.classes.shown),
    ("method_matcher", matcher.methods.shown), ("class_name_format", matcher.format.shown)]

/-! ## Configurations -/

/-- The printed form of a class choice. -/
def ClassChoice.shown (choice : ClassChoice) : String :=
  record "ClassMatchConfig" [("variant", Text.quote choice.variant),
    ("value", Text.quote choice.value)]

/-- The printed form of a method choice. -/
def MethodChoice.shown (choice : MethodChoice) : String :=
  record "MethodMatchConfig" [("variant", Text.quote choice.variant),
    ("value", Text.quote choice.value),
    ("descriptor", (choice.descriptor.map Text.quote).getD "None")]

/-- The printed form of a configuration. -/
def MatcherConfig.shown (config : MatcherConfig) : String :=
  record "MatcherConfig" [("class_match", config.classes.shown),
    ("method_match", config.methods.shown), ("class_name_format", config.format.shown)]

end CallSites
