/-
  CallSites.Proofs.Config.Phases

  Loading a document of several matchers, as a whole. First every entry is read, and a fault in one
  of them is all that comes of the document. Only then are the entries loaded, in order and up to
  the first that fails, and the log ends with what that one had compiled.
-/
import CallSites.Proofs.Config.Document
import CallSites.Proofs.Config.Log

namespace CallSites
namespace MatcherConfig

/-! ## Loading in order -/

/-- The lines of configurations that were all loaded. -/
def completeLogs (configs : List MatcherConfig) (matchers : List Matcher) : List LogEntry :=
  (configs.zipWith completeLog matchers).flatten

theorem completeLogs_cons (config : MatcherConfig) (configs : List MatcherConfig)
    (matcher : Matcher) (matchers : List Matcher) :
    completeLogs (config :: configs) (matcher :: matchers) =
      config.completeLog matcher ++ completeLogs configs matchers := rfl

/-- Loading one configuration, with its lines. -/
theorem load_eq_of_ok {config : MatcherConfig} {matcher : Matcher}
    (h : config.load.outcome = .ok matcher) :
    config.load = ⟨config.completeLog matcher, .ok matcher⟩ := by
  have hlog := log_load config
  rw [h] at hlog
  exact congrArg₂ Logged.mk hlog h

theorem load_eq_of_error {config : MatcherConfig} {error : MatcherError}
    (h : config.load.outcome = .error error) :
    config.load = ⟨config.classes.compiledLog, .error error⟩ := by
  have hlog := log_load config
  rw [h] at hlog
  exact congrArg₂ Logged.mk hlog h

theorem loadAll_cons_of_ok {config : MatcherConfig} {configs : List MatcherConfig}
    {matcher : Matcher} (h : config.load.outcome = .ok matcher) :
    loadAll (config :: configs) =
      ⟨config.completeLog matcher ++ (loadAll configs).log,
        (loadAll configs).outcome.map (matcher :: ·)⟩ := by
  rw [loadAll, load_eq_of_ok h, Logged.bind_of_ok rfl]
  cases hrest : (loadAll configs).outcome with
  | error error =>
    rw [Logged.bind_of_error hrest]
    rfl
  | ok matchers =>
    rw [Logged.bind_of_ok hrest]
    exact congrArg (Logged.mk · _) (congrArg _ (List.append_nil _))

/-- Configurations that all load give their matchers in order, with all their lines. -/
theorem loadAll_of_forall₂ {configs : List MatcherConfig} {matchers : List Matcher}
    (h : List.Forall₂ (fun config matcher => config.load.outcome = .ok matcher)
      configs matchers) :
    loadAll configs = ⟨completeLogs configs matchers, .ok matchers⟩ := by
  induction h with
  | nil => rfl
  | cons hload _ ih =>
    rw [loadAll_cons_of_ok hload, ih]
    rfl

/-- Where a configuration fails, loading stops with its error. Those before it have left all
    their lines. -/
theorem loadAll_of_stopsAt {configs before : List MatcherConfig} {matchers : List Matcher}
    {config : MatcherConfig} {error : MatcherError}
    (h : StopsAt (fun config => config.load.outcome) configs before matchers config error) :
    loadAll configs =
      ⟨completeLogs before matchers ++ config.classes.compiledLog, .error error⟩ := by
  obtain ⟨⟨after, rfl⟩, hdone, hstop⟩ := h
  induction hdone with
  | nil =>
    rw [List.nil_append, loadAll, load_eq_of_error hstop]
    rfl
  | cons hload _ ih =>
    rw [List.cons_append, loadAll_cons_of_ok hload, ih, completeLogs_cons, List.append_assoc]
    rfl

/-! ## Documents -/

variable {entries : Entries} {items : List Value}

theorem listOfValue_of_items (hfield : Value.field? entries "matchers" = some (.list items))
    (hne : items ≠ []) : listOfValue (.map entries) = items.mapM ofValue := by
  rw [listOfValue, hfield]
  cases items with
  | nil => exact absurd rfl hne
  | cons item items => rfl

theorem loadMatchers_of_listOfValue {document : Value} {configs : List MatcherConfig}
    (h : listOfValue document = .ok configs) :
    loadMatchers document =
      if maxMatchers < configs.length then
        ⟨[], .error (.config (.tooManyMatchers configs.length))⟩
      else loadAll configs := by
  rw [loadMatchers, h, Logged.bind_of_ok rfl]
  split <;> rfl

/-- A document with a list of entries is loaded as a whole or not at all, in two phases. The first
    fault in the shape of an entry comes before every fault in what an entry says, and before a
    list that is too long. The log has all lines of the entries that were loaded and, of the entry
    that failed, the line of its class pattern if that was compiled. -/
theorem loadMatchers_in_two_phases
    (hfield : Value.field? entries "matchers" = some (.list items)) (hne : items ≠ []) :
    ((∃ item ∈ items, ∃ error, ofValue item = .error error) →
      ∃ before configs item error, StopsAt ofValue items before configs item error ∧
        loadMatchers (.map entries) = ⟨[], .error error⟩) ∧
    ((∀ item ∈ items, ∃ config, ofValue item = .ok config) →
      ∃ configs, List.Forall₂ (fun item config => ofValue item = .ok config) items configs ∧
        (256 < items.length →
          loadMatchers (.map entries) =
            ⟨[], .error (.config (.tooManyMatchers items.length))⟩) ∧
        (items.length ≤ 256 → (∃ config ∈ configs, ∃ error, config.load.outcome = .error error) →
          ∃ before matchers config error,
            StopsAt (fun config => config.load.outcome) configs before matchers config error ∧
            loadMatchers (.map entries) =
              ⟨completeLogs before matchers ++ config.classes.compiledLog, .error error⟩) ∧
        (items.length ≤ 256 →
          (∀ config ∈ configs, ∃ matcher, config.load.outcome = .ok matcher) →
          ∃ matchers, matchers.length = items.length ∧
            List.Forall₂ (fun config matcher => config.load.outcome = .ok matcher)
              configs matchers ∧
            loadMatchers (.map entries) = ⟨completeLogs configs matchers, .ok matchers⟩)) := by
  have hlist := listOfValue_of_items hfield hne
  refine ⟨?_, ?_⟩
  · intro hfault
    obtain ⟨before, configs, item, error, hstops⟩ := exists_stopsAt hfault
    refine ⟨before, configs, item, error, hstops, ?_⟩
    rw [loadMatchers, hlist, mapM_of_stopsAt hstops]
    rfl
  · intro hread
    obtain ⟨configs, hconfigs⟩ := exists_forall₂_of_ok hread
    have hlength : configs.length = items.length := hconfigs.length_eq.symm
    -- Everything is read, so the number of entries decides whether any is loaded.
    have hload := loadMatchers_of_listOfValue (hlist.trans (mapM_eq_ok_iff.mpr hconfigs))
    rw [hlength] at hload
    have hwithin : items.length ≤ 256 → loadMatchers (.map entries) = loadAll configs :=
      fun hle => hload.trans (if_neg (Nat.not_lt.mpr hle))
    refine ⟨configs, hconfigs, ?_, ?_, ?_⟩
    · intro hmany
      exact hload.trans (if_pos hmany)
    · intro hle hfault
      obtain ⟨before, matchers, config, error, hstops⟩ := exists_stopsAt hfault
      exact ⟨before, matchers, config, error, hstops,
        (hwithin hle).trans (loadAll_of_stopsAt hstops)⟩
    · intro hle hall
      obtain ⟨matchers, hmatchers⟩ := exists_forall₂_of_ok hall
      exact ⟨matchers, hmatchers.length_eq.symm.trans hlength, hmatchers,
        (hwithin hle).trans (loadAll_of_forall₂ hmatchers)⟩

/-- An entry of the wrong shape comes before a pattern that does not compile, and a signature
    that is no descriptor after the pattern of its class. -/
theorem loadMatchers_in_two_phases_faults :
    (∃ before configs item error,
      StopsAt ofValue
        [pairDocument .internal ("regex", .str "(") ("name", .str "run"), .null]
        before configs item error ∧
      loadMatchers (.map [(.str "matchers", .list
        [pairDocument .internal ("regex", .str "(") ("name", .str "run"), .null])]) =
          ⟨[], .error error⟩) ∧
    ∃ configs before matchers config error,
      List.Forall₂ (fun item config => ofValue item = .ok config)
        [pairDocument .internal ("regex", .str "a/.*")
          ("signature", signatureOfDescriptor "run" "V")] configs ∧
      StopsAt (fun config => config.load.outcome) configs before matchers config error ∧
      loadMatchers (.map [(.str "matchers", .list
        [pairDocument .internal ("regex", .str "a/.*")
          ("signature", signatureOfDescriptor "run" "V")])]) =
          ⟨completeLogs before matchers ++ config.classes.compiledLog, .error error⟩ := by
  have hfield : ∀ items, Value.field? [(.str "matchers", .list items)] "matchers" =
      some (.list items) := fun items => rfl
  have hread : ofValue (pairDocument .internal ("regex", .str "a/.*")
      ("signature", signatureOfDescriptor "run" "V")) =
        .ok ⟨⟨"regex", "a/.*"⟩, ⟨"signature", "run", some "V"⟩, .internal⟩ :=
    ofValue_eq_ok_iff.mpr (isConfig_pairDocument .internal (isClass_regex "a/.*")
      (isMethod_signatureOfDescriptor "run" "V"))
  have hfails : (load ⟨⟨"regex", "a/.*"⟩, ⟨"signature", "run", some "V"⟩,
      .internal⟩).outcome.isOk = false := by decide +kernel
  refine ⟨(loadMatchers_in_two_phases (hfield _) (List.cons_ne_nil _ _)).1
    ⟨.null, by simp, _, rfl⟩, ?_⟩
  obtain ⟨configs, hconfigs, -, hstops, -⟩ :=
    (loadMatchers_in_two_phases (hfield _) (List.cons_ne_nil _ _)).2
      (List.forall_mem_singleton.mpr ⟨_, hread⟩)
  obtain ⟨config, rest, hconfig, -, rfl⟩ := List.forall₂_cons_left_iff.mp hconfigs
  obtain rfl := Except.ok.inj (hread.symm.trans hconfig)
  obtain ⟨error, herror⟩ := exists_error_of_not_isOk hfails
  obtain ⟨before, matchers, config, error, hstop, hload⟩ :=
    hstops (by decide) ⟨_, List.mem_cons_self, error, herror⟩
  exact ⟨_, before, matchers, config, error, hconfigs, hstop, hload⟩

end MatcherConfig
end CallSites
