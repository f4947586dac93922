/-
  CallSites.Proofs.Config.Raised

  The exceptions that a document raises. Reading stops at the first entry that is not read, and it
  raises an exception if that entry quotes an integer which is too long to be written. What was
  read is loaded up to the first configuration that is refused, and an exception is raised if that
  is because of a pattern which cannot be encoded.
-/
import CallSites.Proofs.Config.Failures
import CallSites.Proofs.Config.Reading
import CallSites.Proofs.Config.Refusals

namespace CallSites
namespace MatcherConfig

variable {document : Value} {exception : Exception}

/-- Of the entries of the document the first that is not read quotes a long integer. -/
def RaisesInReading (document : Value) : Prop :=
  ∃ before item after, documentItems document = before ++ item :: after ∧
    (∀ other ∈ before, ∃ config, IsConfig other config) ∧ QuotesLongInteger item

theorem listOfValue_eq_raised_iff :
    listOfValue document = .error (.raised exception) ↔
      exception = Decimal.unwritable ∧ RaisesInReading document := by
  by_cases hitems : documentItems document = []
  · obtain ⟨fault, hfault⟩ := exists_fault_of_no_items hitems
    rw [hfault]
    refine ⟨nofun, ?_⟩
    rintro ⟨-, before, item, after, hsplit, -⟩
    rw [hitems] at hsplit
    exact absurd hsplit.symm (by simp)
  · rw [listOfValue_eq_mapM hitems, mapM_eq_error_iff]
    refine ⟨?_, ?_⟩
    · rintro ⟨before, configs, item, ⟨after, hsplit⟩, hdone, hstop⟩
      obtain ⟨rfl, hlong⟩ := ofValue_eq_raised_iff.mp hstop
      refine ⟨rfl, before, item, after, hsplit, fun other hmem => ?_, hlong⟩
      obtain ⟨config, -, hconfig⟩ := exists_mem_of_forall₂ hdone.flip hmem
      exact ⟨config, ofValue_eq_ok_iff.mp hconfig⟩
    · rintro ⟨rfl, before, item, after, hsplit, hread, hlong⟩
      have hall (other : Value) (hmem : other ∈ before) : ∃ config, ofValue other = .ok config :=
        (hread other hmem).imp fun config => ofValue_eq_ok_iff.mpr
      obtain ⟨configs, hconfigs⟩ := exists_forall₂_of_ok hall
      exact ⟨before, configs, item, ⟨after, hsplit⟩, hconfigs, ofValue_of_quotesLongInteger hlong⟩

/-- A document is read as configurations exactly if it has entries and each of them is read. -/
theorem listOfValue_eq_ok_iff {configs : List MatcherConfig} :
    listOfValue document = .ok configs ↔
      configs ≠ [] ∧ List.Forall₂ IsConfig (documentItems document) configs := by
  have hread : List.Forall₂ IsConfig (documentItems document) configs ↔
      (documentItems document).mapM ofValue = .ok configs := by
    simp only [mapM_eq_ok_iff, ofValue_eq_ok_iff]
  rw [hread]
  refine ⟨?_, ?_⟩
  · intro h
    have hitems := documentItems_ne_nil h
    rw [listOfValue_eq_mapM hitems] at h
    refine ⟨?_, h⟩
    rintro rfl
    exact hitems (List.forall₂_nil_right_iff.mp (mapM_eq_ok_iff.mp h))
  · rintro ⟨hne, h⟩
    rw [listOfValue_eq_mapM ?_, h]
    intro hitems
    rw [hitems] at h
    cases h
    exact hne rfl

/-- All entries of the document are read, and the first of their configurations that is refused
    raises the exception. -/
def RaisesInLoading (document : Value) (exception : Exception) : Prop :=
  ∃ configs before config after, List.Forall₂ IsConfig (documentItems document) configs ∧
    configs.length ≤ maxMatchers ∧ configs = before ++ config :: after ∧
    (∀ other ∈ before, Refusal.NoneApplies other.refusals) ∧
    Refusal.FirstReports config.refusals (.raised exception)

theorem outcome_loadAll (configs : List MatcherConfig) :
    (loadAll configs).outcome = configs.mapM fun config => config.load.outcome := by
  induction configs with
  | nil => rfl
  | cons config configs ih =>
    rw [loadAll, Logged.outcome_bind, List.mapM_cons, ← ih]
    simp only [Logged.outcome_bind, Logged.outcome_pure]
    rfl

theorem outcome_loadAll_eq_raised_iff {configs : List MatcherConfig} :
    (loadAll configs).outcome = .error (.raised exception) ↔
      ∃ before config after, configs = before ++ config :: after ∧
        (∀ other ∈ before, Refusal.NoneApplies other.refusals) ∧
        Refusal.FirstReports config.refusals (.raised exception) := by
  rw [outcome_loadAll, mapM_eq_error_iff]
  refine ⟨?_, ?_⟩
  · rintro ⟨before, matchers, config, ⟨after, hsplit⟩, hdone, hstop⟩
    refine ⟨before, config, after, hsplit, fun other hmem => ?_,
      ((refusedBy_load config).error _).mp hstop⟩
    obtain ⟨matcher, -, hmatcher⟩ := exists_mem_of_forall₂ hdone.flip hmem
    exact (((refusedBy_load other).ok matcher).mp hmatcher).1
  · rintro ⟨before, config, after, hsplit, hnone, hfirst⟩
    have hall (other : MatcherConfig) (hmem : other ∈ before) :
        ∃ matcher, other.load.outcome = .ok matcher := by
      obtain ⟨matcher, hbuilt⟩ := (refusedBy_load other).exists_built (hnone other hmem)
      exact ⟨matcher, ((refusedBy_load other).ok matcher).mpr ⟨hnone other hmem, hbuilt⟩⟩
    obtain ⟨matchers, hmatchers⟩ := exists_forall₂_of_ok hall
    exact ⟨before, matchers, config, ⟨after, hsplit⟩, hmatchers,
      ((refusedBy_load config).error _).mpr hfirst⟩

/-- What was read raises the exception of a configuration, unless there are too many of them. -/
theorem outcome_loadMatchers_eq_raised_iff_of_read {configs : List MatcherConfig}
    (h : listOfValue document = .ok configs) :
    (loadMatchers document).outcome = .error (.raised exception) ↔
      RaisesInLoading document exception := by
  have hunique (others : List MatcherConfig)
      (hothers : List.Forall₂ IsConfig (documentItems document) others) (hne : others ≠ []) :
      configs = others :=
    Except.ok.inj (h.symm.trans (listOfValue_eq_ok_iff.mpr ⟨hne, hothers⟩))
  obtain ⟨-, hread⟩ := listOfValue_eq_ok_iff.mp h
  by_cases hlength : configs.length ≤ maxMatchers
  · rw [loadMatchers_eq_loadAll h hlength, outcome_loadAll_eq_raised_iff]
    refine ⟨?_, ?_⟩
    · rintro ⟨before, config, after, hsplit, hrest⟩
      exact ⟨configs, before, config, after, hread, hlength, hsplit, hrest⟩
    · rintro ⟨others, before, config, after, hothers, -, rfl, hrest⟩
      exact ⟨before, config, after, hunique _ hothers (by simp), hrest⟩
  · rw [loadMatchers_of_listOfValue h, if_pos (Nat.not_le.mp hlength)]
    refine ⟨nofun, ?_⟩
    rintro ⟨others, before, config, after, hothers, hle, rfl, -⟩
    rw [hunique _ hothers (by simp)] at hlength
    exact absurd hle hlength

theorem outcome_loadMatchers_eq_raised_iff :
    (loadMatchers document).outcome = .error (.raised exception) ↔
      (exception = Decimal.unwritable ∧ RaisesInReading document) ∨
        RaisesInLoading document exception := by
  rw [← listOfValue_eq_raised_iff]
  cases hlist : listOfValue document with
  | ok configs =>
    rw [outcome_loadMatchers_eq_raised_iff_of_read hlist]
    simp
  | error error =>
    have hnone : ¬ RaisesInLoading document exception := by
      rintro ⟨others, before, config, after, hothers, -, rfl, -⟩
      rw [listOfValue_eq_ok_iff.mpr ⟨by simp, hothers⟩] at hlist
      cases hlist
    rw [loadMatchers, hlist, Logged.bind_of_error rfl]
    simp [hnone]

end MatcherConfig
end CallSites
