/-
  CallSites.Proofs.Outcome

  What a successful outcome says about the steps that it is made of.
-/
import Mathlib

namespace CallSites

variable {α β ε δ : Type}

@[simp] theorem ok_bind (a : α) (next : α → Except ε β) :
    (Except.ok a >>= next) = next a := rfl

@[simp] theorem error_bind (error : ε) (next : α → Except ε β) :
    (Except.error error >>= next) = .error error := rfl

/-- A sequence of two steps succeeds exactly if both do. -/
theorem bind_eq_ok_iff {outcome : Except ε α} {next : α → Except ε β} {b : β} :
    outcome >>= next = .ok b ↔ ∃ a, outcome = .ok a ∧ next a = .ok b := by
  cases outcome <;> simp [bind, Except.bind]

theorem map_eq_ok_iff {outcome : Except ε α} {f : α → β} {b : β} :
    outcome.map f = .ok b ↔ ∃ a, outcome = .ok a ∧ f a = b := by
  cases outcome <;> simp [Except.map]

theorem map_eq_error_iff {outcome : Except ε α} {f : α → β} {error : ε} :
    outcome.map f = .error error ↔ outcome = .error error := by
  cases outcome <;> simp [Except.map]

theorem mapError_eq_ok_iff {outcome : Except ε α} {f : ε → δ} {a : α} :
    outcome.mapError f = .ok a ↔ outcome = .ok a := by
  cases outcome <;> simp [Except.mapError]

theorem exists_ok_of_isOk {outcome : Except ε α} (h : outcome.isOk = true) :
    ∃ a, outcome = .ok a := by
  cases outcome with
  | error error => cases h
  | ok a => exact ⟨a, rfl⟩

theorem exists_error_of_not_isOk {outcome : Except ε α} (h : outcome.isOk = false) :
    ∃ error, outcome = .error error := by
  cases outcome with
  | error error => exact ⟨error, rfl⟩
  | ok a => cases h

/-- A list is processed exactly if each of its items is. -/
theorem mapM_eq_ok_iff {f : α → Except ε β} {items : List α} {results : List β} :
    items.mapM f = .ok results ↔
      List.Forall₂ (fun item result => f item = .ok result) items results := by
  induction items generalizing results with
  | nil =>
    cases results with
    | nil => simp [pure, Except.pure]
    | cons result results => simp [pure, Except.pure]
  | cons item items ih =>
    rw [List.mapM_cons, List.forall₂_cons_left_iff, bind_eq_ok_iff]
    refine ⟨?_, ?_⟩
    · rintro ⟨result, hitem, h⟩
      obtain ⟨rest, hrest, hresults⟩ := bind_eq_ok_iff.mp h
      cases hresults
      exact ⟨result, rest, hitem, ih.mp hrest, rfl⟩
    · rintro ⟨result, rest, hitem, hrest, rfl⟩
      exact ⟨result, hitem, bind_eq_ok_iff.mpr ⟨rest, ih.mpr hrest, rfl⟩⟩

theorem exists_mem_of_forall₂ {r : α → β → Prop} {items : List α} {results : List β}
    (h : List.Forall₂ r items results) {result : β} (hmem : result ∈ results) :
    ∃ item ∈ items, r item result := by
  induction h with
  | nil => cases hmem
  | cons hfirst _ ih =>
    rcases List.mem_cons.mp hmem with rfl | hmem
    · exact ⟨_, List.mem_cons_self, hfirst⟩
    · obtain ⟨item, hitem, hr⟩ := ih hmem
      exact ⟨item, List.mem_cons_of_mem _ hitem, hr⟩

theorem exists_forall₂_iff {r : α → β → Prop} {results : List β} :
    (∃ items, List.Forall₂ r items results) ↔ ∀ result ∈ results, ∃ item, r item result := by
  refine ⟨?_, ?_⟩
  · rintro ⟨items, hitems⟩ result hmem
    obtain ⟨item, -, hitem⟩ := exists_mem_of_forall₂ hitems hmem
    exact ⟨item, hitem⟩
  · intro h
    induction results with
    | nil => exact ⟨[], .nil⟩
    | cons result results ih =>
      obtain ⟨item, hitem⟩ := h result List.mem_cons_self
      obtain ⟨items, hitems⟩ := ih fun other hmem => h other (List.mem_cons_of_mem _ hmem)
      exact ⟨item :: items, .cons hitem hitems⟩

/-! ## What is ensured -/

/-- Every result of the outcome has one property, and every error another. -/
structure Ensures (outcome : Except ε α) (result : α → Prop) (failure : ε → Prop) : Prop where
  ok : ∀ a, outcome = .ok a → result a
  error : ∀ error, outcome = .error error → failure error

namespace Ensures

variable {outcome : Except ε α} {next : α → Except ε β} {result : α → Prop} {final : β → Prop}
  {failure weaker : ε → Prop} {a : α}

theorem of_ok (h : result a) : Ensures (.ok a) result failure where
  ok _ hb := Except.ok.inj hb ▸ h
  error _ herror := nomatch herror

theorem of_error {error : ε} (h : failure error) : Ensures (.error error) result failure where
  ok _ hb := nomatch hb
  error _ herror := Except.error.inj herror ▸ h

/-- The second step may rely on what the first ensures. -/
theorem bind (h : Ensures outcome result failure)
    (hnext : ∀ a, result a → Ensures (next a) final failure) :
    Ensures (outcome >>= next) final failure := by
  cases outcome with
  | error error => exact of_error (h.error error rfl)
  | ok a => exact hnext a (h.ok a rfl)

theorem weaken (h : Ensures outcome result failure)
    (hfailure : ∀ error, failure error → weaker error) : Ensures outcome result weaker where
  ok := h.ok
  error error herror := hfailure error (h.error error herror)

end Ensures

/-! ## Two outcomes -/

/-- Both outcomes are results in one relation, or both are errors in another. -/
inductive Related (result : α → β → Prop) (failure : ε → δ → Prop) :
    Except ε α → Except δ β → Prop where
  | ok {a : α} {b : β} : result a b → Related result failure (.ok a) (.ok b)
  | error {error : ε} {other : δ} :
      failure error other → Related result failure (.error error) (.error other)

namespace Related

variable {α' β' : Type} {result : α → β → Prop} {final : α' → β' → Prop} {failure : ε → δ → Prop}

/-- The second steps need to be related only where the first have related results. -/
theorem bind {outcome : Except ε α} {other : Except δ β} {next : α → Except ε α'}
    {next' : β → Except δ β'} (h : Related result failure outcome other)
    (hnext : ∀ a b, result a b → Related final failure (next a) (next' b)) :
    Related final failure (outcome >>= next) (other >>= next') := by
  cases h with
  | ok hresult => exact hnext _ _ hresult
  | error hfailure => exact .error hfailure

/-- A related outcome of a failure is a failure. -/
theorem of_error {outcome : Except ε α} {other : Except δ β} {error : ε}
    (h : Related result failure outcome other) (herror : outcome = .error error) :
    ∃ error', other = .error error' ∧ failure error error' := by
  cases h with
  | ok hresult => cases herror
  | error hfailure =>
    cases herror
    exact ⟨_, rfl, hfailure⟩

theorem of_ok {failure : ε → δ → Prop} {outcome : Except ε α} {other : Except δ α} {a : α}
    (h : Related Eq failure outcome other) (hok : outcome = .ok a) : other = .ok a := by
  cases h with
  | ok hresult => rw [← hresult, Except.ok.inj hok]
  | error hfailure => cases hok

theorem eq {outcome other : Except ε α} (h : Related Eq Eq outcome other) : outcome = other := by
  cases h with
  | ok hresult => rw [hresult]
  | error hfailure => rw [hfailure]

theorem map {outcome : Except ε α} {other : Except δ α} (h : Related Eq failure outcome other)
    (f : α → β) : Related Eq failure (outcome.map f) (other.map f) := by
  cases h with
  | ok hresult => exact .ok (congrArg f hresult)
  | error hfailure => exact .error hfailure

/-- Lists are processed alike if their items are, one by one. -/
theorem mapM {f : α → Except ε α'} {g : β → Except δ α'} {items : List α} {others : List β}
    (h : List.Forall₂ (fun item other => Related Eq failure (f item) (g other)) items others) :
    Related Eq failure (items.mapM f) (others.mapM g) := by
  induction h with
  | nil => exact .ok rfl
  | cons hfirst _ ih =>
    rw [List.mapM_cons, List.mapM_cons]
    refine hfirst.bind ?_
    rintro first _ rfl
    refine ih.bind ?_
    rintro rest _ rfl
    exact .ok rfl

variable {same : ε → ε → Prop}

theorem refl [Std.Refl same] (outcome : Except ε α) : Related Eq same outcome outcome := by
  cases outcome with
  | error error => exact .error (refl_of same error)
  | ok a => exact .ok rfl

theorem trans [IsTrans ε same] {first second third : Except ε α} (h : Related Eq same first second)
    (h' : Related Eq same second third) : Related Eq same first third := by
  cases h with
  | ok hresult =>
    cases h' with
    | ok hresult' => exact .ok (hresult.trans hresult')
  | error hfailure =>
    cases h' with
    | error hfailure' => exact .error (trans_of same hfailure hfailure')

end Related

/-! ## The first failure -/

/-- Processing stops at this item: it cannot be processed, and all items before it have been. -/
structure StopsAt (f : α → Except ε β) (items before : List α) (results : List β) (item : α)
    (error : ε) : Prop where
  split : ∃ after, items = before ++ item :: after
  done : List.Forall₂ (fun item result => f item = .ok result) before results
  stop : f item = .error error

/-- Processing stops somewhere if some item cannot be processed. -/
theorem exists_stopsAt {f : α → Except ε β} {items : List α}
    (h : ∃ item ∈ items, ∃ error, f item = .error error) :
    ∃ before results item error, StopsAt f items before results item error := by
  induction items with
  | nil => simp at h
  | cons first items ih =>
    cases hfirst : f first with
    | error error => exact ⟨[], [], first, error, ⟨items, rfl⟩, .nil, hfirst⟩
    | ok result =>
      have hrest : ∃ item ∈ items, ∃ error, f item = .error error := by
        obtain ⟨item, hmem, error, herror⟩ := h
        rcases List.mem_cons.mp hmem with rfl | hmem
        · rw [hfirst] at herror
          cases herror
        · exact ⟨item, hmem, error, herror⟩
      obtain ⟨before, results, item, error, ⟨after, rfl⟩, hdone, hstop⟩ := ih hrest
      exact ⟨first :: before, result :: results, item, error, ⟨after, rfl⟩,
        .cons hfirst hdone, hstop⟩

theorem exists_forall₂_of_ok {f : α → Except ε β} {items : List α}
    (h : ∀ item ∈ items, ∃ result, f item = .ok result) :
    ∃ results, List.Forall₂ (fun item result => f item = .ok result) items results := by
  induction items with
  | nil => exact ⟨[], .nil⟩
  | cons first items ih =>
    obtain ⟨result, hfirst⟩ := h first List.mem_cons_self
    obtain ⟨results, hrest⟩ := ih fun item hmem => h item (List.mem_cons_of_mem _ hmem)
    exact ⟨result :: results, .cons hfirst hrest⟩

/-- The error of a list is that of the item where processing stops. -/
theorem mapM_of_stopsAt {f : α → Except ε β} {items before : List α} {results : List β} {item : α}
    {error : ε} (h : StopsAt f items before results item error) :
    items.mapM f = .error error := by
  obtain ⟨⟨after, rfl⟩, hdone, hstop⟩ := h
  rw [List.mapM_append, mapM_eq_ok_iff.mpr hdone, ok_bind, List.mapM_cons, hstop]
  rfl

theorem mapM_eq_error_iff {f : α → Except ε β} {items : List α} {error : ε} :
    items.mapM f = .error error ↔
      ∃ before results item, StopsAt f items before results item error := by
  refine ⟨?_, fun ⟨before, results, item, hstops⟩ => mapM_of_stopsAt hstops⟩
  intro herror
  by_cases hfault : ∃ item ∈ items, ∃ error, f item = .error error
  · obtain ⟨before, results, item, found, hstops⟩ := exists_stopsAt hfault
    rw [mapM_of_stopsAt hstops] at herror
    cases herror
    exact ⟨before, results, item, hstops⟩
  · have hall (item : α) (hmem : item ∈ items) : ∃ result, f item = .ok result := by
      cases hitem : f item with
      | error error => exact absurd ⟨item, hmem, error, hitem⟩ hfault
      | ok result => exact ⟨result, rfl⟩
    obtain ⟨results, hresults⟩ := exists_forall₂_of_ok hall
    rw [mapM_eq_ok_iff.mpr hresults] at herror
    cases herror

end CallSites
