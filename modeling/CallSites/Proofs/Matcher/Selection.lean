/-
  CallSites.Proofs.Matcher.Selection

  The sites that a matcher selects are those sites of the loaded classes that it accepts. They
  come in the order of the classes and as often as they occur there, so matchers that accept the
  same methods select the same sites. On the way each class is asked for once, and its methods
  are asked for exactly if it is in scope.
-/
import CallSites.Matcher.Selection
import CallSites.Proofs.Outcome

namespace CallSites

/-- The sites of a class: one for each of its methods. -/
def LoadedClass.sites (cls : LoadedClass) : List CallSite :=
  cls.methods.map fun method => ⟨cls.name, method.1, method.2⟩

/-- Whether a matcher accepts the method at a site. -/
def Matcher.acceptsSite (matcher : Matcher) (site : CallSite) : Bool :=
  matcher.accepts site.cls (some (site.method, site.descriptor))

/-! ## Questions without effects -/

section Answers

variable (answer : Query → Bool)

theorem run_selectMethods (cls : String) (methods : List (String × String)) :
    Id.run (selectMethods (fun query => pure (answer query)) cls methods) =
      (methods.map fun method => (⟨cls, method.1, method.2⟩ : CallSite)).filter
        fun site => answer (.method site.method site.descriptor) := by
  induction methods with
  | nil => rfl
  | cons method rest ih =>
    rw [List.map_cons, List.filter_cons, ← ih]
    rfl

theorem run_selectSites_cons (cls : LoadedClass) (rest : List LoadedClass) :
    Id.run (selectSites (fun query => pure (answer query)) (cls :: rest)) =
      (if answer (.cls cls.name) then
        Id.run (selectMethods (fun query => pure (answer query)) cls.name cls.methods) else []) ++
        Id.run (selectSites (fun query => pure (answer query)) rest) := by
  cases hcls : answer (.cls cls.name) <;> simp [selectSites, hcls]

end Answers

/-! ## Selecting with a matcher -/

namespace Matcher

theorem filter_sites (matcher : Matcher) (cls : LoadedClass) :
    cls.sites.filter matcher.acceptsSite =
      if matcher.acceptsClass cls.name then
        cls.sites.filter fun site => matcher.acceptsMethod site.method site.descriptor
      else [] := by
  -- All sites of a class ask for the same class name.
  have hsite : ∀ site ∈ cls.sites, matcher.acceptsSite site =
      (matcher.acceptsClass cls.name && matcher.acceptsMethod site.method site.descriptor) := by
    intro site hmem
    obtain ⟨method, -, rfl⟩ := List.mem_map.mp hmem
    rfl
  rw [List.filter_congr hsite]
  cases matcher.acceptsClass cls.name <;> simp

theorem select_eq_filter (matcher : Matcher) (classes : List LoadedClass) :
    matcher.select classes =
      (classes.flatMap LoadedClass.sites).filter matcher.acceptsSite := by
  induction classes with
  | nil => rfl
  | cons cls rest ih =>
    rw [select] at ih ⊢
    rw [List.flatMap_cons, List.filter_append, ← ih, run_selectSites_cons, run_selectMethods,
      filter_sites]
    rfl

/-- The sites are decided by the methods that are accepted. -/
theorem select_congr {first second : Matcher}
    (h : ∀ cls method descriptor : String,
      first.accepts cls (some (method, descriptor)) =
        second.accepts cls (some (method, descriptor))) (classes : List LoadedClass) :
    first.select classes = second.select classes := by
  rw [select_eq_filter, select_eq_filter]
  exact List.filter_congr fun site _ => h site.cls site.method site.descriptor

theorem mem_select_iff {matcher : Matcher} {classes : List LoadedClass} {site : CallSite} :
    site ∈ matcher.select classes ↔
      (∃ cls ∈ classes, site ∈ cls.sites) ∧ matcher.acceptsSite site = true := by
  rw [select_eq_filter, List.mem_filter, List.mem_flatMap]

/-- A method alone in its class is selected exactly if it is accepted there. -/
theorem select_singleton_ne_nil_iff {matcher : Matcher} {cls method descriptor : String} :
    matcher.select [⟨cls, [(method, descriptor)]⟩] ≠ [] ↔
      matcher.accepts cls (some (method, descriptor)) = true := by
  have hsites : [(⟨cls, [(method, descriptor)]⟩ : LoadedClass)].flatMap LoadedClass.sites =
      [⟨cls, method, descriptor⟩] := rfl
  have haccepts : matcher.acceptsSite ⟨cls, method, descriptor⟩ =
      matcher.accepts cls (some (method, descriptor)) := rfl
  rw [select_eq_filter, hsites, List.filter_singleton, haccepts]
  cases matcher.accepts cls (some (method, descriptor)) <;> simp

/-! ## The questions of a selection -/

/-- The questions that a class gives rise to: one for the class and, if it is in scope, one for
    each of its methods. -/
def questions (matcher : Matcher) (cls : LoadedClass) : List Query :=
  .cls cls.name ::
    if matcher.acceptsClass cls.name then
      cls.methods.map fun method => .method method.1 method.2
    else []

/-- Each method of a class in scope is asked for once. -/
theorem run_selectMethods_note (matcher : Matcher) (cls : String)
    (methods : List (String × String)) (asked : List Query) :
    (selectMethods matcher.note cls methods).run asked =
      (Id.run (selectMethods (fun query => pure (matcher.answer query)) cls methods),
        asked ++ methods.map fun method => .method method.1 method.2) := by
  induction methods generalizing asked with
  | nil => exact congrArg (Prod.mk []) (List.append_nil asked).symm
  | cons method rest ih =>
    have hstep : (selectMethods matcher.note cls (method :: rest)).run asked =
        Prod.map
          (fun sites => if matcher.answer (.method method.1 method.2) then
            (⟨cls, method.1, method.2⟩ : CallSite) :: sites else sites) id
          (Id.run ((selectMethods matcher.note cls rest).run
            (asked ++ [.method method.1 method.2]))) := rfl
    rw [hstep, ih, List.map_cons, List.append_assoc]
    rfl

/-- Noting the questions does not change what is selected. Whatever was asked before stays in
    front of them. -/
theorem run_selectSites_note (matcher : Matcher) (classes : List LoadedClass)
    (asked : List Query) :
    (selectSites matcher.note classes).run asked =
      (matcher.select classes, asked ++ classes.flatMap matcher.questions) := by
  induction classes generalizing asked with
  | nil => exact congrArg (Prod.mk []) (List.append_nil asked).symm
  | cons cls rest ih =>
    have hselect : matcher.select (cls :: rest) =
        (if matcher.acceptsClass cls.name then
          Id.run (selectMethods (fun query => pure (matcher.answer query)) cls.name cls.methods)
          else []) ++ matcher.select rest :=
      run_selectSites_cons matcher.answer cls rest
    have hasked : (selectSites matcher.note (cls :: rest)).run asked =
        (if matcher.acceptsClass cls.name then
          selectMethods matcher.note cls.name cls.methods >>= fun sites =>
            selectSites matcher.note rest >>= fun more => pure (sites ++ more)
        else selectSites matcher.note rest >>= fun more => pure ([] ++ more)).run
          (asked ++ [.cls cls.name]) := rfl
    have hrest : ∀ sites noted,
        (selectSites matcher.note rest >>= fun more => pure (sites ++ more)).run noted =
          (sites ++ matcher.select rest, noted ++ rest.flatMap matcher.questions) := by
      intro sites noted
      rw [StateT.run_bind, ih]
      rfl
    rw [hselect, hasked, List.flatMap_cons, questions]
    -- Either the methods are asked for after the class, or the rest comes at once.
    cases hcls : matcher.acceptsClass cls.name with
    | true =>
      rw [if_pos rfl, if_pos rfl, if_pos rfl, StateT.run_bind, run_selectMethods_note]
      refine (hrest _ _).trans ?_
      simp only [List.append_assoc, List.cons_append, List.nil_append]
    | false =>
      rw [if_neg nofun, if_neg nofun, if_neg nofun, hrest]
      simp only [List.append_assoc, List.cons_append, List.nil_append]

theorem queries_eq_flatMap (matcher : Matcher) (classes : List LoadedClass) :
    matcher.queries classes = classes.flatMap matcher.questions := by
  rw [queries, run_selectSites_note]
  exact List.nil_append _

end Matcher
end CallSites
