/-
  CallSites.Proofs.CommandLine.Answers

  What a check finds out from a list of entries is what it finds out from each of them. The answer
  is yes exactly if it is for one entry, so neither the order of the entries nor how often one is
  listed makes a difference, and an entry that is added takes no match away.
-/
import CallSites.Proofs.CommandLine.Check
import CallSites.Proofs.Config.Composition
import CallSites.Proofs.Config.Document

namespace CallSites.CommandLine

open MatcherConfig

/-! ## Answers -/

/-- Whether one of the matchers of a document accepts what is asked for, if the document loads. -/
def Query.answer (query : Query) (document : Value) : Except MatcherError Bool :=
  (loadMatchers document).outcome.map fun matchers => matchers.any query.acceptedBy

variable {query : Query} {items others : List Value} {yes : Bool}

/-- The answer of a document is what is printed for a file that holds it. -/
theorem endCheck_of_answer {reader : DocumentReader} (path : String) {bytes : List UInt8}
    {document : Value} (hread : readDocument reader (.ok bytes) = .ok document)
    (h : query.answer document = .ok yes) :
    endCheck reader false path (.ok bytes) query.cls query.method =
      .exited (if yes then ⟨0, "true\n", ""⟩ else ⟨1, "false\n", ""⟩) := by
  obtain ⟨matchers, hmatchers, rfl⟩ := map_eq_ok_iff.mp h
  obtain ⟨text, htext, hdocument⟩ := readDocument_eq_ok_iff.mp hread
  exact endCheck_of_loads path ⟨text, document, htext, hdocument, hmatchers⟩ query

/-! ## Entries and lists -/

theorem answer_listDocument_eq_ok_iff (hne : items ≠ []) (hle : items.length ≤ 256) :
    query.answer (listDocument items) = .ok yes ↔
      ∃ results, EntriesLoad items results ∧
        (results.map Prod.snd).any query.acceptedBy = yes := by
  rw [Query.answer, map_eq_ok_iff]
  simp only [outcome_listDocument_eq_ok_iff hne hle]
  refine ⟨?_, ?_⟩
  · rintro ⟨_, ⟨results, hresults, rfl⟩, hany⟩
    exact ⟨results, hresults, hany⟩
  · rintro ⟨results, hresults, hany⟩
    exact ⟨_, ⟨results, hresults, rfl⟩, hany⟩

theorem answer_entry_eq_ok_iff {item : Value} :
    query.answer (listDocument [item]) = .ok yes ↔
      ∃ matcher, (loadEntry item).outcome = .ok matcher ∧ query.acceptedBy matcher = yes := by
  have hle : [item].length ≤ 256 := Nat.le_of_ble_eq_true rfl
  rw [answer_listDocument_eq_ok_iff (List.cons_ne_nil _ _) hle]
  refine ⟨?_, ?_⟩
  · rintro ⟨_, hresults, hany⟩
    obtain ⟨result, _, hitem, hnil, rfl⟩ := List.forall₂_cons_left_iff.mp hresults
    cases hnil
    exact ⟨result.2, congrArg Logged.outcome hitem, by simpa using hany⟩
  · rintro ⟨matcher, hmatcher, hany⟩
    obtain ⟨lines, hitem⟩ := Logged.exists_log_iff.mpr hmatcher
    exact ⟨[(lines, matcher)], .cons hitem .nil, by simpa using hany⟩

theorem exists_answer_entry_iff {item : Value} :
    (∃ yes, query.answer (listDocument [item]) = .ok yes) ↔
      ∃ matcher, (loadEntry item).outcome = .ok matcher := by
  simp only [answer_entry_eq_ok_iff]
  refine ⟨?_, ?_⟩
  · rintro ⟨_, matcher, hmatcher, -⟩
    exact ⟨matcher, hmatcher⟩
  · rintro ⟨matcher, hmatcher⟩
    exact ⟨_, matcher, hmatcher, rfl⟩

/-- One of the matchers accepts exactly if the answer of one entry is yes. -/
theorem any_acceptedBy_iff {results : List Loaded} (h : EntriesLoad items results) :
    (results.map Prod.snd).any query.acceptedBy = true ↔
      ∃ item ∈ items, query.answer (listDocument [item]) = .ok true := by
  -- Along the entries and their results. The first matcher accepts if its entry by itself does.
  induction h with
  | nil => simp
  | @cons item result _ _ hitem _ ih =>
    have hentry : query.answer (listDocument [item]) = .ok true ↔
        query.acceptedBy result.2 = true := by
      rw [answer_entry_eq_ok_iff, hitem]
      simp
    rw [List.map_cons, List.any_cons, Bool.or_eq_true, ih, List.exists_mem_cons_iff, hentry]

/-- A list has an answer exactly if every entry has one, and it is yes if one of theirs is. -/
theorem answer_eq_ok_iff_entries (hne : items ≠ []) (hle : items.length ≤ 256) :
    query.answer (listDocument items) = .ok yes ↔
      (∀ item ∈ items, ∃ found, query.answer (listDocument [item]) = .ok found) ∧
        (yes = true ↔ ∃ item ∈ items, query.answer (listDocument [item]) = .ok true) := by
  rw [answer_listDocument_eq_ok_iff hne hle]
  simp only [exists_answer_entry_iff, ← exists_entriesLoad_iff]
  refine ⟨?_, ?_⟩
  · rintro ⟨results, hresults, rfl⟩
    exact ⟨⟨results, hresults⟩, any_acceptedBy_iff hresults⟩
  · rintro ⟨⟨results, hresults⟩, hyes⟩
    refine ⟨results, hresults, ?_⟩
    rw [Bool.eq_iff_iff, any_acceptedBy_iff hresults, hyes]

/-- The answer of a document that loads is that of its entries. -/
theorem answer_documentItems {document : Value} (h : query.answer document = .ok yes) :
    (∀ item ∈ documentItems document, ∃ found, query.answer (listDocument [item]) = .ok found) ∧
      (yes = true ↔
        ∃ item ∈ documentItems document, query.answer (listDocument [item]) = .ok true) := by
  obtain ⟨matchers, hmatchers, -⟩ := map_eq_ok_iff.mp h
  obtain ⟨hne, hle, hsame⟩ := loadMatchers_documentItems hmatchers
  have hlist : query.answer (listDocument (documentItems document)) = .ok yes := by
    rw [Query.answer, hsame]
    exact h
  exact (answer_eq_ok_iff_entries hne hle).mp hlist

/-- Only which entries are listed counts, not in which order or how often. -/
theorem answer_congr (hne : items ≠ []) (hle : items.length ≤ 256) (hle' : others.length ≤ 256)
    (h : ∀ item, item ∈ items ↔ item ∈ others) :
    query.answer (listDocument items) = .ok yes ↔
      query.answer (listDocument others) = .ok yes := by
  have hne' : others ≠ [] := by
    obtain ⟨item, rest, rfl⟩ := List.exists_cons_of_ne_nil hne
    exact List.ne_nil_of_mem ((h item).mp List.mem_cons_self)
  rw [answer_eq_ok_iff_entries hne hle, answer_eq_ok_iff_entries hne' hle']
  simp only [h]

/-- An entry that loads takes no match away. -/
theorem answer_insert {before after : List Value} {entry : Value} {found : Bool}
    (hle : (before ++ entry :: after).length ≤ 256)
    (hne : before ++ after ≠ []) (h : query.answer (listDocument (before ++ after)) = .ok true)
    (hentry : query.answer (listDocument [entry]) = .ok found) :
    query.answer (listDocument (before ++ entry :: after)) = .ok true := by
  have hfewer : (before ++ after).length ≤ 256 := by
    simp only [List.length_append, List.length_cons] at hle ⊢
    omega
  obtain ⟨hall, hyes⟩ := (answer_eq_ok_iff_entries hne hfewer).mp h
  obtain ⟨item, hmem, hitem⟩ := hyes.mp rfl
  have hmore : before ++ entry :: after ≠ [] := by simp
  refine (answer_eq_ok_iff_entries hmore hle).mpr ⟨?_, ?_⟩
  · intro other hother
    rcases List.mem_cons.mp (List.perm_middle.mem_iff.mp hother) with rfl | hother
    · exact ⟨found, hentry⟩
    · exact hall other hother
  · exact ⟨fun _ => ⟨item, List.perm_middle.mem_iff.mpr (List.mem_cons_of_mem _ hmem), hitem⟩,
      fun _ => rfl⟩

/-! ## Composition -/

end CallSites.CommandLine
