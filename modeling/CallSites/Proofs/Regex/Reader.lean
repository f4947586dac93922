/-
  CallSites.Proofs.Regex.Reader

  Readers and grammars. A reader looks at a text from its place on and says how much of it belongs
  to what it finds. A grammar relates the front of a text, the rest after it and what the front
  stands for, and knows nothing of how it is read.
-/
import CallSites.Proofs.Outcome
import CallSites.Regex.Piece

namespace CallSites.Regex

/-! ## Readers and grammars -/

section Reads

variable {α β : Type} {read : List Char → Except Error (α × Nat)}
  {grammar : List Char → List Char → α → Prop} {text : List Char}

/-- The reader finds what the grammar says that the front of a text stands for, given the rest, and
    returns the length of the front. -/
structure Reads (read : List Char → Except Error (α × Nat))
    (grammar : List Char → List Char → α → Prop) : Prop where
  sound : ∀ {text found used}, read text = .ok (found, used) →
    ∃ front rest, text = front ++ rest ∧ used = front.length ∧ grammar front rest found
  complete : ∀ {front rest found}, grammar front rest found →
    read (front ++ rest) = .ok (found, front.length)

/-- What a reader finds and what is made of it. -/
theorem Reads.map_eq_ok_iff (h : Reads read grammar) {f : α × Nat → β × Nat} {result : β × Nat} :
    (read text).map f = .ok result ↔
      ∃ front rest found, text = front ++ rest ∧ grammar front rest found ∧
        f (found, front.length) = result := by
  rw [CallSites.map_eq_ok_iff]
  refine ⟨?_, ?_⟩
  · rintro ⟨⟨found, used⟩, hread, rfl⟩
    obtain ⟨front, rest, rfl, rfl, hfront⟩ := h.sound hread
    exact ⟨front, rest, found, rfl, hfront, rfl⟩
  · rintro ⟨front, rest, found, rfl, hfront, rfl⟩
    exact ⟨_, h.complete hfront, rfl⟩

end Reads

/-! ## Delimiters -/

theorem before?_append {stop : Char} {name : List Char} (h : stop ∉ name) (rest : List Char) :
    before? stop (name ++ stop :: rest) = some name := by
  induction name with
  | nil => exact if_pos rfl
  | cons c name ih =>
    have hne : c ≠ stop := fun heq => h (heq ▸ List.mem_cons_self)
    have hrest := ih fun hmem => h (List.mem_cons_of_mem _ hmem)
    rw [List.cons_append, before?, if_neg hne, hrest]
    rfl

theorem of_before?_eq_some {stop : Char} {text name : List Char}
    (h : before? stop text = some name) :
    stop ∉ name ∧ ∃ rest, text = name ++ stop :: rest := by
  induction text generalizing name with
  | nil => cases h
  | cons c text ih =>
    rw [before?] at h
    split at h
    · next hc =>
      cases h
      exact ⟨List.not_mem_nil, text, by rw [hc]; rfl⟩
    · next hc =>
      obtain ⟨tail, htail, rfl⟩ := Option.map_eq_some_iff.mp h
      obtain ⟨hnot, rest, rfl⟩ := ih htail
      exact ⟨fun hmem => (List.mem_cons.mp hmem).elim (fun heq => hc heq.symm) hnot, rest, rfl⟩

/-! ## Runs of digits -/

/-- The front of a text that ends where a test fails is the longest run that passes it. -/
theorem takeWhile_append_of_head {p : Char → Bool} {front rest : List Char}
    (hfront : ∀ c ∈ front, p c = true) (hrest : ∀ c ∈ rest.head?, p c = false) :
    (front ++ rest).takeWhile p = front := by
  rw [List.takeWhile_append_of_pos hfront]
  cases rest with
  | nil => simp
  | cons c rest =>
    have hc : p c = false := hrest c rfl
    simp [hc]

theorem head?_dropWhile {p : Char → Bool} {text : List Char} :
    ∀ c ∈ (text.dropWhile p).head?, p c = false := by
  intro c hc
  have hhead := List.head?_dropWhile_not p text
  rw [Option.mem_def.mp hc] at hhead
  simpa using hhead

/-- A run of at most so many characters that pass a test: more pass only where it has its full
    length. -/
structure IsRun (p : Char → Bool) (most : Nat) (front rest : List Char) : Prop where
  all : ∀ c ∈ front, p c = true
  length_le : front.length ≤ most
  head : front.length < most → ∀ c ∈ rest.head?, p c = false

theorem IsRun.take_takeWhile {p : Char → Bool} {most : Nat} {front rest : List Char}
    (h : IsRun p most front rest) : ((front ++ rest).takeWhile p).take most = front := by
  rcases Nat.lt_or_eq_of_le h.length_le with hlt | heq
  · rw [takeWhile_append_of_head h.all (h.head hlt), List.take_of_length_le h.length_le]
  · rw [List.takeWhile_append_of_pos h.all, ← heq, List.take_left]

theorem IsRun.cons {p : Char → Bool} {most : Nat} {front rest : List Char} {c : Char}
    (h : IsRun p most front rest) (hc : p c = true) : IsRun p (most + 1) (c :: front) rest where
  all := List.forall_mem_cons.mpr ⟨hc, h.all⟩
  length_le := Nat.succ_le_succ h.length_le
  head hlt := h.head (Nat.lt_of_succ_lt_succ hlt)

theorem IsRun.tail {p : Char → Bool} {most : Nat} {front rest : List Char} {c : Char}
    (h : IsRun p (most + 1) (c :: front) rest) : IsRun p most front rest where
  all := fun d hd => h.all d (List.mem_cons_of_mem c hd)
  length_le := Nat.le_of_succ_le_succ h.length_le
  head hlt := h.head (Nat.succ_lt_succ hlt)

theorem exists_isRun (p : Char → Bool) (most : Nat) (text : List Char) :
    ∃ rest, text = (text.takeWhile p).take most ++ rest ∧
      IsRun p most ((text.takeWhile p).take most) rest := by
  by_cases hlt : (text.takeWhile p).length < most
  -- A shorter run ends where the test fails.
  · rw [List.take_of_length_le (Nat.le_of_lt hlt)]
    exact ⟨text.dropWhile p, List.takeWhile_append_dropWhile.symm,
      fun c => List.mem_takeWhile_imp, Nat.le_of_lt hlt, fun _ => head?_dropWhile⟩
  · obtain ⟨rest, hrest⟩ := (List.take_prefix most _).trans (List.takeWhile_prefix p (l := text))
    have hlength : ((text.takeWhile p).take most).length = most := by
      rw [List.length_take]
      omega
    exact ⟨rest, hrest.symm, fun c hc => List.mem_takeWhile_imp (List.mem_of_mem_take hc),
      Nat.le_of_eq hlength, fun hless => absurd hlength (Nat.ne_of_lt hless)⟩

theorem drop_length_takeWhile (p : Char → Bool) (text : List Char) :
    text.drop (text.takeWhile p).length = text.dropWhile p := by
  conv => lhs; arg 2; rw [← List.takeWhile_append_dropWhile (p := p) (l := text)]
  exact List.drop_left

end CallSites.Regex
