/-
  CallSites.Proofs.CommandLine.Agreement

  A check from the command line and a selection among loaded classes agree. A selection asks a
  matcher step by step, a check asks for a class and a method at once; both find the same methods.
  With several matchers a check asks each by itself, so a class that one of them accepts and a
  method that another accepts do not add up to an answer.
-/
import CallSites.Proofs.CommandLine.Check
import CallSites.Proofs.Matcher.Literal
import CallSites.Proofs.Matcher.Selection

namespace CallSites

/-! ## The questions of a check -/

/-- The answer to a check for a class and, if one is named, a method with this descriptor. -/
def Matcher.check (matcher : Matcher) (cls : String) (name : Option String) (descriptor : String) :
    Bool :=
  matcher.accepts cls (name.map fun name => (Text.ofString name, Text.ofString descriptor))

theorem Matcher.acceptsSite_eq_check (matcher : Matcher) (site : CallSite) :
    matcher.acceptsSite site = matcher.check site.cls (some site.method) site.descriptor := rfl

/-- Without a method the descriptor does not count, and a check for the class is part of every
    check for one of its methods. -/
theorem Matcher.check_class_of_check_method {matcher : Matcher} {cls name descriptor : String}
    (h : matcher.check cls (some name) descriptor = true) (given : String) :
    matcher.check cls none given = true := by
  have hclass : matcher.acceptsClass cls = true := (Bool.and_eq_true_iff.mp h).1
  exact Bool.and_eq_true_iff.mpr ⟨hclass, rfl⟩

namespace CommandLine

theorem any_check_iff_exists_select_ne_nil (matchers : List Matcher)
    (cls name descriptor : String) :
    (matchers.any fun matcher => matcher.check cls (some name) descriptor) = true ↔
      ∃ matcher ∈ matchers, matcher.select [⟨cls, [(name, descriptor)]⟩] ≠ [] := by
  rw [List.any_eq_true]
  exact exists_congr fun matcher => and_congr_right fun _ =>
    Matcher.select_singleton_ne_nil_iff.symm

/-- What is printed for a file that loads is the answer of its matchers. -/
theorem stdout_endCheck_iff_any_check {env : Environment} {bytes : List UInt8}
    {matchers : List Matcher} (h : Loads env.reader bytes matchers)
    (path cls name descriptor : String) :
    ((endCheck env.reader false path (.ok bytes) cls (some (name, descriptor))).output env).stdout =
        "true\n" ↔
      (matchers.any fun matcher => matcher.check cls (some name) descriptor) = true := by
  have hend := endCheck_of_loads path h (.ofDescriptor cls name descriptor)
  change endCheck env.reader false path (.ok bytes) cls (some (name, descriptor)) =
    .exited (if (matchers.any fun matcher => matcher.check cls (some name) descriptor) = true then
      ⟨0, "true\n", ""⟩ else ⟨1, "false\n", ""⟩) at hend
  rw [hend]
  split
  · next hany => simp [hany, Ending.output]
  · next hnone => simp [hnone, Ending.output]

end CommandLine
end CallSites
