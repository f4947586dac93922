/-
  CallSites.Yaml.Reader

  The reader of configuration files. It goes through a set in the order of the text, and the texts
  of its own errors are left out.
-/
import CallSites.CommandLine.Environment
import CallSites.Yaml.Document

namespace CallSites.Yaml

/-- What is reported of a text that is refused. -/
private def failureOf : Refusal → CommandLine.ReadFailure
  | .malformed => .invalid "..."
  | .raised exception => .raised exception

/-- The reader of YAML files. -/
def reader : CommandLine.DocumentReader where
  read text := (readText text).mapError failureOf
  refuse _ refusal := .undecodable refusal.message

end CallSites.Yaml
