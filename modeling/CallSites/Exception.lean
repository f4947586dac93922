/-
  CallSites.Exception

  Exceptions of the system that the program runs on. They are none of the errors that the library
  has for its own failures, so what expects those does not catch them.
-/

namespace CallSites

/-- An exception: the name of its class, and its message. -/
structure Exception where
  kind : String
  message : String
  deriving DecidableEq, Repr

namespace Exception

/-- An argument has the right type and a value that it cannot have. -/
def valueError (message : String) : Exception := ⟨"ValueError", message⟩

/-- The last line that is printed of an exception which nothing catches. -/
def report (exception : Exception) : String :=
  exception.kind ++ ": " ++ exception.message ++ "\n"

end Exception

end CallSites
