/-
  CallSites.Regex.Pattern

  A pattern that is known to denote an expression, kept together with that expression.
-/
import CallSites.Regex.Match
import CallSites.Regex.Parse

namespace CallSites.Regex

/-- A pattern and the expression it denotes. The text decides the expression. -/
structure Pattern where
  text : String
  regex : Regex
  parse_text : parse text = .ok regex

namespace Pattern

/-- The pattern with this text, if the text denotes an expression. -/
def compile (text : String) : Except Error Pattern :=
  match h : parse text with
  | .ok regex => .ok ⟨text, regex, h⟩
  | .error error => .error error

/-- Whether the whole name matches. -/
def isMatch (pattern : Pattern) (name : String) : Bool :=
  pattern.regex.isMatch name

theorem eq_of_text_eq {p q : Pattern} (h : p.text = q.text) : p = q := by
  obtain ⟨text, regex, hp⟩ := p
  obtain ⟨text', regex', hq⟩ := q
  obtain rfl : text = text' := h
  obtain rfl : regex = regex' := by simpa [hp] using hq
  rfl

/-- Patterns are equal when their texts are. -/
instance : DecidableEq Pattern := fun p q =>
  if h : p.text = q.text then .isTrue (eq_of_text_eq h)
  else .isFalse fun heq => h (congrArg text heq)

theorem text_of_compile {text : String} {pattern : Pattern} (h : compile text = .ok pattern) :
    pattern.text = text := by
  unfold compile at h
  split at h
  · cases h; rfl
  · cases h

end Pattern

end CallSites.Regex
