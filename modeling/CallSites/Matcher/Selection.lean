/-
  CallSites.Matcher.Selection

  The call sites that a matcher selects among loaded classes. A class is asked for once, and its
  methods are asked for only if it is in scope.
-/
import CallSites.Matcher.Basic

namespace CallSites

/-- A loaded class: its name, and the name and descriptor of each method. -/
structure LoadedClass where
  name : String
  methods : List (String × String)
  deriving DecidableEq, Repr

/-- A method of a class, where invocations are counted. -/
structure CallSite where
  cls : String
  method : String
  descriptor : String
  deriving DecidableEq, Repr

/-- A question put to a matcher. -/
inductive Query where
  | cls (name : String)
  | method (name descriptor : String)
  deriving DecidableEq, Repr

/-- The answer of a matcher to a question. -/
def Matcher.answer (matcher : Matcher) : Query → Bool
  | .cls name => matcher.acceptsClass name
  | .method name descriptor => matcher.acceptsMethod name descriptor

/-! ## Selecting by questions -/

section Ask

variable {m : Type → Type} [Monad m] (ask : Query → m Bool)

/-- The selected methods of a class in scope. -/
def selectMethods (cls : String) : List (String × String) → m (List CallSite)
  | [] => pure []
  | (method, descriptor) :: rest => do
    let selected ← ask (.method method descriptor)
    let sites ← selectMethods cls rest
    pure (if selected then ⟨cls, method, descriptor⟩ :: sites else sites)

/-- The selected call sites, with the questions asked in order. -/
def selectSites : List LoadedClass → m (List CallSite)
  | [] => pure []
  | cls :: rest => do
    let inScope ← ask (.cls cls.name)
    let sites ← if inScope then selectMethods ask cls.name cls.methods else pure []
    let more ← selectSites rest
    pure (sites ++ more)

end Ask

/-! ## Selecting with a matcher -/

/-- The call sites that the matcher selects. -/
def Matcher.select (matcher : Matcher) (classes : List LoadedClass) : List CallSite :=
  Id.run (selectSites (fun query => pure (matcher.answer query)) classes)

/-- Notes a question and answers it. -/
def Matcher.note (matcher : Matcher) (query : Query) : StateM (List Query) Bool := do
  modify (· ++ [query])
  pure (matcher.answer query)

/-- The questions that selecting puts to the matcher, in order. -/
def Matcher.queries (matcher : Matcher) (classes : List LoadedClass) : List Query :=
  ((selectSites matcher.note classes).run []).2

end CallSites
