/-
  CallSites.Matcher.Error

  Why a matcher cannot be built: for one of the errors that the library has for this, or because an
  exception is raised on the way. Once it is built, asking it never fails.
-/
import CallSites.ClassName
import CallSites.Config.Fault
import CallSites.Descriptor.Error
import CallSites.Exception
import CallSites.Regex.Error

namespace CallSites

/-- Why a matcher cannot be built. -/
inductive MatcherError where
  | invalidPattern (pattern : String) (cause : Regex.Error)
  /-- A pattern, name or descriptor of more characters than allowed. -/
  | tooLong (length maximum : Nat)
  | invalidDescriptor (error : DescriptorError)
  /-- A literal class name that is not in the format of its matcher, so that it equals no name
      that is asked for. -/
  | misspelledClass (name : Text) (format : NameFormat)
  | config (fault : ConfigFault)
  /-- An exception that is none of the errors above, and is not caught where they are. -/
  | raised (exception : Exception)
  deriving DecidableEq, Repr

/-- The error in words. -/
def MatcherError.message : MatcherError → String
  | .invalidPattern pattern cause =>
    "invalid regex pattern \"" ++ pattern ++ "\": " ++ cause.reason
  | .tooLong length maximum =>
    "pattern length " ++ toString length ++ " exceeds maximum " ++ toString maximum
  | .invalidDescriptor error => error.message
  | .misspelledClass name format =>
    "class name " ++ Text.quote name ++ " is not in " ++ format.word ++ " format"
  | .config fault => fault.message
  | .raised exception => exception.message

end CallSites
