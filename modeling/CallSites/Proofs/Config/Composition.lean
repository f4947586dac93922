/-
  CallSites.Proofs.Config.Composition

  A list of entries loads as its entries do by themselves. It loads exactly if each of them does,
  and then its matchers and the lines of its log are theirs in order, so lists that are joined load
  to what they load to apart. A document without a list is a list of one entry.
-/
import CallSites.Proofs.Config.Failures

namespace CallSites

/-! ## Steps that succeed -/

namespace Logged

variable {α β : Type} {first : Logged α} {next : α → Logged β} {log : List LogEntry}

/-- Of two steps that both succeed the lines are joined. -/
theorem bind_eq_ok_iff {result : β} :
    first >>= next = ⟨log, .ok result⟩ ↔
      ∃ before value after, first = ⟨before, .ok value⟩ ∧ next value = ⟨after, .ok result⟩ ∧
        log = before ++ after := by
  obtain ⟨lines, outcome⟩ := first
  cases outcome with
  | error error =>
    rw [bind_of_error rfl]
    simp
  | ok value =>
    rw [bind_of_ok rfl]
    refine ⟨?_, ?_⟩
    · intro h
      obtain ⟨rfl, hnext⟩ := Logged.mk.inj h
      exact ⟨lines, value, (next value).log, rfl, congrArg (Logged.mk _) hnext, rfl⟩
    · rintro ⟨_, _, after, hfirst, hnext, rfl⟩
      cases hfirst
      rw [hnext]

theorem ofExcept_eq_ok_iff {outcome : Except MatcherError α} {value : α} :
    ofExcept outcome = ⟨log, .ok value⟩ ↔ outcome = .ok value ∧ log = [] := by
  rw [ofExcept, Logged.mk.injEq, and_comm, eq_comm (a := [])]

theorem exists_log_iff {logged : Logged α} {value : α} :
    (∃ log, logged = ⟨log, .ok value⟩) ↔ logged.outcome = .ok value := by
  obtain ⟨lines, outcome⟩ := logged
  simp

end Logged

namespace MatcherConfig

/-! ## Entries by themselves -/

/-- The document of a list of entries. -/
def listDocument (items : List Value) : Value :=
  .ofFields [("matchers", .list items)]

/-- The matcher of one entry. -/
def loadEntry (item : Value) : Logged Matcher := do
  let config ← Logged.ofExcept (ofValue item)
  load config

/-- What is left of an entry that loads: its lines and its matcher. -/
abbrev Loaded := List LogEntry × Matcher

/-- Each entry by itself loads, and these are their results. -/
def EntriesLoad (items : List Value) (results : List Loaded) : Prop :=
  List.Forall₂ (fun item result => loadEntry item = ⟨result.1, .ok result.2⟩) items results

variable {items : List Value} {results : List Loaded} {log : List LogEntry}
  {matchers : List Matcher}

theorem loadEntry_eq_ok_iff {item : Value} {matcher : Matcher} :
    loadEntry item = ⟨log, .ok matcher⟩ ↔
      ∃ config, ofValue item = .ok config ∧ config.load = ⟨log, .ok matcher⟩ := by
  rw [loadEntry, Logged.bind_eq_ok_iff]
  refine ⟨?_, ?_⟩
  · rintro ⟨_, config, _, hread, hload, rfl⟩
    obtain ⟨hconfig, rfl⟩ := Logged.ofExcept_eq_ok_iff.mp hread
    exact ⟨config, hconfig, hload⟩
  · rintro ⟨config, hconfig, hload⟩
    exact ⟨[], config, log, Logged.ofExcept_eq_ok_iff.mpr ⟨hconfig, rfl⟩, hload, rfl⟩

/-- Reading all entries before the first is loaded makes no difference where all of them load. -/
theorem entriesLoad_iff :
    EntriesLoad items results ↔
      ∃ configs, List.Forall₂ (fun item config => ofValue item = .ok config) items configs ∧
        List.Forall₂ (fun config result => config.load = ⟨result.1, .ok result.2⟩)
          configs results := by
  rw [EntriesLoad]
  refine ⟨?_, ?_⟩
  · intro h
    induction h with
    | nil => exact ⟨[], .nil, .nil⟩
    | cons hitem _ ih =>
      obtain ⟨config, hread, hload⟩ := loadEntry_eq_ok_iff.mp hitem
      obtain ⟨configs, hreads, hloads⟩ := ih
      exact ⟨config :: configs, .cons hread hreads, .cons hload hloads⟩
  · rintro ⟨configs, hreads, hloads⟩
    induction hreads generalizing results with
    | nil =>
      cases hloads
      exact .nil
    | cons hread _ ih =>
      cases hloads with
      | cons hload hloads =>
        exact .cons (loadEntry_eq_ok_iff.mpr ⟨_, hread, hload⟩) (ih hloads)

theorem loadAll_eq_ok_iff {configs : List MatcherConfig} :
    loadAll configs = ⟨log, .ok matchers⟩ ↔
      ∃ results : List Loaded,
        List.Forall₂ (fun config result => config.load = ⟨result.1, .ok result.2⟩)
          configs results ∧
        log = results.flatMap Prod.fst ∧ matchers = results.map Prod.snd := by
  -- Along the configurations. The lines of each come before those of the ones after it.
  induction configs generalizing log matchers with
  | nil => simp [loadAll, pure, eq_comm]
  | cons config configs ih =>
    simp only [loadAll, Logged.bind_eq_ok_iff, ih, List.forall₂_cons_left_iff]
    refine ⟨?_, ?_⟩
    · rintro ⟨lines, matcher, _, hload, ⟨_, _, _, ⟨results, hloads, rfl, rfl⟩, hpure, rfl⟩, rfl⟩
      cases hpure
      exact ⟨(lines, matcher) :: results, ⟨(lines, matcher), results, hload, hloads, rfl⟩,
        by simp, rfl⟩
    · rintro ⟨_, ⟨result, results, hload, hloads, rfl⟩, rfl, rfl⟩
      exact ⟨_, _, _, hload, ⟨_, _, [], ⟨results, hloads, rfl, rfl⟩, rfl, rfl⟩, by simp⟩

/-! ## Lists of entries -/

theorem listOfValue_listDocument (hne : items ≠ []) :
    listOfValue (listDocument items) = items.mapM ofValue :=
  listOfValue_of_items (if_pos rfl) hne

/-- A list of entries loads exactly if each entry does, and to what they load to in order. -/
theorem loadMatchers_listDocument_eq_ok_iff (hne : items ≠ []) (hle : items.length ≤ 256) :
    loadMatchers (listDocument items) = ⟨log, .ok matchers⟩ ↔
      ∃ results, EntriesLoad items results ∧ log = results.flatMap Prod.fst ∧
        matchers = results.map Prod.snd := by
  -- The entries are all read before the first is loaded, and they keep to the limit.
  have hwithin : ∀ {configs : List MatcherConfig},
      List.Forall₂ (fun item config => ofValue item = .ok config) items configs →
      loadMatchers (listDocument items) = loadAll configs := by
    intro configs hconfigs
    have hread := (listOfValue_listDocument hne).trans (mapM_eq_ok_iff.mpr hconfigs)
    exact loadMatchers_eq_loadAll hread (hconfigs.length_eq ▸ hle)
  refine ⟨?_, ?_⟩
  · intro h
    obtain ⟨_, configs, _, hread, -, -⟩ := Logged.bind_eq_ok_iff.mp h
    rw [Logged.ofExcept_eq_ok_iff, listOfValue_listDocument hne, mapM_eq_ok_iff] at hread
    rw [hwithin hread.1] at h
    obtain ⟨results, hloads, hlog, hmatchers⟩ := loadAll_eq_ok_iff.mp h
    exact ⟨results, entriesLoad_iff.mpr ⟨configs, hread.1, hloads⟩, hlog, hmatchers⟩
  · rintro ⟨results, hentries, hlog, hmatchers⟩
    obtain ⟨configs, hreads, hloads⟩ := entriesLoad_iff.mp hentries
    rw [hwithin hreads]
    exact loadAll_eq_ok_iff.mpr ⟨results, hloads, hlog, hmatchers⟩

theorem outcome_listDocument_eq_ok_iff (hne : items ≠ []) (hle : items.length ≤ 256) :
    (loadMatchers (listDocument items)).outcome = .ok matchers ↔
      ∃ results, EntriesLoad items results ∧ matchers = results.map Prod.snd := by
  rw [← Logged.exists_log_iff]
  simp only [loadMatchers_listDocument_eq_ok_iff hne hle]
  refine ⟨?_, ?_⟩
  · rintro ⟨_, results, hentries, -, hmatchers⟩
    exact ⟨results, hentries, hmatchers⟩
  · rintro ⟨results, hentries, hmatchers⟩
    exact ⟨_, results, hentries, rfl, hmatchers⟩

theorem EntriesLoad.append {xs ys : List Value} {first second : List Loaded}
    (hfirst : EntriesLoad xs first) (hsecond : EntriesLoad ys second) :
    EntriesLoad (xs ++ ys) (first ++ second) :=
  List.rel_append hfirst hsecond

theorem EntriesLoad.exists_append {xs ys : List Value} (h : EntriesLoad (xs ++ ys) results) :
    (∃ first, EntriesLoad xs first) ∧ ∃ second, EntriesLoad ys second := by
  refine ⟨⟨results.take xs.length, ?_⟩, ⟨results.drop xs.length, ?_⟩⟩
  · have hfirst := List.forall₂_take xs.length h
    rwa [List.take_left] at hfirst
  · have hsecond := List.forall₂_drop xs.length h
    rwa [List.drop_left] at hsecond

/-- All entries load exactly if each does. -/
theorem exists_entriesLoad_iff :
    (∃ results, EntriesLoad items results) ↔
      ∀ item ∈ items, ∃ matcher, (loadEntry item).outcome = .ok matcher := by
  have hitem : ∀ item : Value,
      (∃ result : Loaded, loadEntry item = ⟨result.1, .ok result.2⟩) ↔
        ∃ matcher, (loadEntry item).outcome = .ok matcher := by
    intro item
    simp only [Prod.exists, ← Logged.exists_log_iff]
    exact exists_comm
  simp only [← hitem]
  rw [← exists_forall₂_iff]
  exact exists_congr fun results => ⟨List.Forall₂.flip, List.Forall₂.flip⟩

/-! ## Lists that are joined -/

section Joined

variable {xs ys : List Value} (hxs : xs ≠ []) (hys : ys ≠ []) (hle : (xs ++ ys).length ≤ 256)
include hxs hys hle

theorem loads_append_iff :
    (∃ matchers, (loadMatchers (listDocument (xs ++ ys))).outcome = .ok matchers) ↔
      (∃ first, (loadMatchers (listDocument xs)).outcome = .ok first) ∧
        ∃ second, (loadMatchers (listDocument ys)).outcome = .ok second := by
  obtain ⟨hlex, hley⟩ : xs.length ≤ 256 ∧ ys.length ≤ 256 := by
    rw [List.length_append] at hle
    omega
  simp only [outcome_listDocument_eq_ok_iff hxs hlex, outcome_listDocument_eq_ok_iff hys hley,
    outcome_listDocument_eq_ok_iff (List.append_ne_nil_of_left_ne_nil hxs ys) hle]
  refine ⟨?_, ?_⟩
  · rintro ⟨_, results, hresults, -⟩
    obtain ⟨⟨first, hfirst⟩, ⟨second, hsecond⟩⟩ := hresults.exists_append
    exact ⟨⟨_, first, hfirst, rfl⟩, ⟨_, second, hsecond, rfl⟩⟩
  · rintro ⟨⟨_, first, hfirst, -⟩, ⟨_, second, hsecond, -⟩⟩
    exact ⟨_, first ++ second, hfirst.append hsecond, rfl⟩

theorem loadMatchers_append {log log' : List LogEntry} {first second : List Matcher}
    (hfirst : loadMatchers (listDocument xs) = ⟨log, .ok first⟩)
    (hsecond : loadMatchers (listDocument ys) = ⟨log', .ok second⟩) :
    loadMatchers (listDocument (xs ++ ys)) = ⟨log ++ log', .ok (first ++ second)⟩ := by
  obtain ⟨hlex, hley⟩ : xs.length ≤ 256 ∧ ys.length ≤ 256 := by
    rw [List.length_append] at hle
    omega
  obtain ⟨results, hresults, rfl, rfl⟩ :=
    (loadMatchers_listDocument_eq_ok_iff hxs hlex).mp hfirst
  obtain ⟨results', hresults', rfl, rfl⟩ :=
    (loadMatchers_listDocument_eq_ok_iff hys hley).mp hsecond
  refine (loadMatchers_listDocument_eq_ok_iff (List.append_ne_nil_of_left_ne_nil hxs ys) hle).mpr
    ⟨results ++ results', hresults.append hresults', ?_, ?_⟩
  · rw [List.flatMap_append]
  · rw [List.map_append]

end Joined

/-! ## Documents -/

/-- A document without a list is loaded as the list of itself alone. -/
theorem loadMatchers_listDocument_singleton {document : Value}
    (h : ∀ entries, document = .map entries → Value.field? entries "matchers" = none) :
    loadMatchers (listDocument [document]) = loadMatchers document := by
  have hlist : listOfValue (listDocument [document]) = listOfValue document := by
    have hsingle : listOfValue document = (ofValue document).map ([·]) := by
      cases document with
      | map entries => rw [listOfValue, h entries rfl]
      | _ => rfl
    rw [hsingle, listOfValue_listDocument (List.cons_ne_nil _ _), List.mapM_cons]
    cases ofValue document <;> rfl
  rw [loadMatchers, loadMatchers, hlist]

/-- A document that loads is loaded as the list of its entries, of which there are some but not too
    many. -/
theorem loadMatchers_documentItems {document : Value}
    (h : (loadMatchers document).outcome = .ok matchers) :
    documentItems document ≠ [] ∧ (documentItems document).length ≤ 256 ∧
      loadMatchers (listDocument (documentItems document)) = loadMatchers document := by
  cases hread : listOfValue document with
  | error error =>
    rw [loadMatchers, hread] at h
    cases h
  | ok configs =>
    have hne := documentItems_ne_nil hread
    have hitems := forall₂_of_listOfValue hread
    have hlist : listOfValue (listDocument (documentItems document)) = .ok configs :=
      (listOfValue_listDocument hne).trans (mapM_eq_ok_iff.mpr hitems)
    refine ⟨hne, ?_, ?_⟩
    · rw [loadMatchers_of_listOfValue hread] at h
      split at h
      · cases h
      · next hle => exact hitems.length_eq ▸ Nat.le_of_not_lt hle
    · rw [loadMatchers, loadMatchers, hlist, hread]

end MatcherConfig
end CallSites
