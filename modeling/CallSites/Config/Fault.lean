/-
  CallSites.Config.Fault

  What can be wrong with the shape of a configuration document.
-/
import CallSites.Text.Quoted

namespace CallSites

/-- The largest number of matchers in one document. -/
def maxMatchers : Nat := 256

/-- A fault in the shape of a configuration. Values are named by their kind. -/
inductive ConfigFault where
  /-- A matcher that is no mapping. -/
  | notMapping (kind : String)
  /-- A format that is none, as it is shown. -/
  | unknownFormat (shown : String)
  | allocationsCombined
  | missingField (name : String)
  | matchersNotList (kind : String)
  | matchersEmpty
  | tooManyMatchers (count : Nat)
  /-- A part of a matcher that is no mapping. -/
  | partNotMapping (part kind : String)
  /-- A part with none or several of its variants; the keys it has are in order. -/
  | notOneVariant (part : String) (variants : List String) (keys : List Text)
  | notText (what kind : String)
  | descriptorCombined
  | parametersNotNames
  | unknownClassVariant (variant : Text)
  | unknownMethodVariant (variant : Text)
  deriving DecidableEq, Repr

private def quotedList (names : List Text) : String :=
  "[" ++ ", ".intercalate (names.map Text.quote) ++ "]"

/-- The fault in words. -/
def ConfigFault.message : ConfigFault → String
  | .notMapping kind => "expected dict, got " ++ kind
  | .unknownFormat shown =>
    "class_name_format must be one of ['canonical', 'internal'], got " ++ shown
  | .allocationsCombined => "'allocations' cannot be combined with 'class' or 'method'"
  | .missingField name => "missing required field " ++ Text.quote name
  | .matchersNotList kind => "'matchers' must be a list, got " ++ kind
  | .matchersEmpty => "'matchers' must not be empty"
  | .tooManyMatchers count =>
    "too many matchers: " ++ toString count ++ " exceeds maximum " ++ toString maxMatchers
  | .partNotMapping part kind => part ++ " must be a dict, got " ++ kind
  | .notOneVariant part variants keys =>
    part ++ " must contain exactly one of " ++ quotedList (variants.map .ofString) ++
      ", got keys: " ++ quotedList keys
  | .notText what kind => what ++ " must be a string, got " ++ kind
  | .descriptorCombined =>
    "method signature takes 'descriptor' or 'parameters'/'returns', not both"
  | .parametersNotNames => "method signature 'parameters' must be a list of type names"
  | .unknownClassVariant variant => "unknown class match variant: " ++ Text.quote variant
  | .unknownMethodVariant variant => "unknown method match variant: " ++ Text.quote variant

end CallSites
