/-
  CallSites.Proofs.Regex.Matching

  The matcher follows the language. Each expression takes a list of positions to the list of all
  positions that a stretch which it matches leads to, and an open repetition is complete because a
  copy that does not move on can be left out.
-/
import CallSites.Proofs.Regex.Positions

namespace CallSites.Regex

open CallSites.Text.Utf8 (encode)
open Position (IsOn Leads)

variable {whole : List UInt8} {p q : Position} {left right positions seen fresh : List Position}

/-! ## Lists of positions -/

/-- The positions of one text, from the last to the first and each only once. -/
structure Listed (whole : List UInt8) (positions : List Position) : Prop where
  on : ∀ p ∈ positions, p.IsOn whole
  order : positions.Pairwise fun p q => q.offset < p.offset

namespace Listed

theorem nil : Listed whole [] := ⟨by simp, .nil⟩

theorem cons_iff :
    Listed whole (p :: positions) ↔
      p.IsOn whole ∧ (∀ q ∈ positions, q.offset < p.offset) ∧ Listed whole positions := by
  refine ⟨fun h => ?_, ?_⟩
  · obtain ⟨hlater, horder⟩ := List.pairwise_cons.mp h.order
    exact ⟨h.on p List.mem_cons_self, hlater,
      fun q hq => h.on q (List.mem_cons_of_mem _ hq), horder⟩
  · rintro ⟨hp, hlater, h⟩
    refine ⟨fun q hq => ?_, List.pairwise_cons.mpr ⟨hlater, h.order⟩⟩
    rcases List.mem_cons.mp hq with rfl | hq
    · exact hp
    · exact h.on q hq

theorem sublist (h : Listed whole positions) (hsub : left.Sublist positions) :
    Listed whole left :=
  ⟨fun p hp => h.on p (hsub.subset hp), h.order.sublist hsub⟩

end Listed

theorem mem_merge (hleft : Listed whole left) (hright : Listed whole right) :
    q ∈ merge left right ↔ q ∈ left ∨ q ∈ right := by
  fun_induction merge left right with
  | case1 right => simp
  | case2 left => simp
  | case3 p left r right hlt ih =>
    have hrest := (Listed.cons_iff.mp hleft).2.2
    rw [List.mem_cons, ih hrest hright, List.mem_cons (b := p), or_assoc]
  | case4 p left r right hnot hlt ih =>
    have hrest := (Listed.cons_iff.mp hright).2.2
    rw [List.mem_cons, ih hleft hrest, List.mem_cons (b := r), or_left_comm]
  | case5 p left r right hnot hnot' ih =>
    obtain ⟨hp, -, hleft⟩ := Listed.cons_iff.mp hleft
    obtain ⟨hr, -, hright⟩ := Listed.cons_iff.mp hright
    -- Two positions with one offset are the same.
    have hsame : p = r := hp.eq_of_offset hr (by omega)
    rw [List.mem_cons, ih hleft hright, List.mem_cons, List.mem_cons, hsame]
    tauto

theorem Listed.merge (hleft : Listed whole left) (hright : Listed whole right) :
    Listed whole (merge left right) := by
  fun_induction Regex.merge left right with
  | case1 right => exact hright
  | case2 left => exact hleft
  | case3 p left r right hlt ih =>
    obtain ⟨hp, hlater, hrest⟩ := Listed.cons_iff.mp hleft
    obtain ⟨hr, hlater', -⟩ := Listed.cons_iff.mp hright
    refine Listed.cons_iff.mpr ⟨hp, fun x hx => ?_, ih hrest hright⟩
    rcases (mem_merge hrest hright).mp hx with hx | hx
    · exact hlater x hx
    · rcases List.mem_cons.mp hx with rfl | hx
      · exact hlt
      · exact (hlater' x hx).trans hlt
  | case4 p left r right hnot hlt ih =>
    obtain ⟨hp, hlater, -⟩ := Listed.cons_iff.mp hleft
    obtain ⟨hr, hlater', hrest⟩ := Listed.cons_iff.mp hright
    refine Listed.cons_iff.mpr ⟨hr, fun x hx => ?_, ih hleft hrest⟩
    rcases (mem_merge hleft hrest).mp hx with hx | hx
    · rcases List.mem_cons.mp hx with rfl | hx
      · exact hlt
      · exact (hlater x hx).trans hlt
    · exact hlater' x hx
  | case5 p left r right hnot hnot' ih =>
    obtain ⟨hp, hlater, hleft⟩ := Listed.cons_iff.mp hleft
    obtain ⟨-, hlater', hright⟩ := Listed.cons_iff.mp hright
    refine Listed.cons_iff.mpr ⟨hp, fun x hx => ?_, ih hleft hright⟩
    rcases (mem_merge hleft hright).mp hx with hx | hx
    · exact hlater x hx
    · have := hlater' x hx
      omega

theorem minus_sublist (left right : List Position) : (minus left right).Sublist left := by
  fun_induction minus left right with
  | case1 => exact .refl _
  | case2 => exact .refl _
  | case3 p left r right hlt ih => exact ih.cons_cons p
  | case4 p left r right hnot hlt ih => exact ih
  | case5 p left r right hnot hnot' ih => exact ih.cons p

theorem mem_minus (hleft : Listed whole left) (hright : Listed whole right) :
    q ∈ minus left right ↔ q ∈ left ∧ q ∉ right := by
  fun_induction minus left right with
  | case1 => simp
  | case2 => simp
  | case3 p left r right hlt ih =>
    -- The first position on the left comes before all on the right, so it is kept.
    obtain ⟨-, hlater, hrest⟩ := Listed.cons_iff.mp hleft
    have hlast := (Listed.cons_iff.mp hright).2.1
    have hnew : p ∉ r :: right := by
      intro hp
      rcases List.mem_cons.mp hp with rfl | hp
      · exact Nat.lt_irrefl _ hlt
      · exact Nat.lt_asymm hlt (hlast p hp)
    rw [List.mem_cons, ih hrest hright, List.mem_cons (b := p)]
    refine ⟨?_, ?_⟩
    · rintro (rfl | ⟨hq, hother⟩)
      · exact ⟨.inl rfl, hnew⟩
      · exact ⟨.inr hq, hother⟩
    · rintro ⟨rfl | hq, hother⟩
      · exact .inl rfl
      · exact .inr ⟨hq, hother⟩
  | case4 p left r right hnot hlt ih =>
    -- The first on the right comes before all on the left, so it takes nothing away.
    obtain ⟨-, hlater, -⟩ := Listed.cons_iff.mp hleft
    have hother : r ∉ p :: left := by
      intro hr
      rcases List.mem_cons.mp hr with rfl | hr
      · exact Nat.lt_irrefl _ hlt
      · exact Nat.lt_asymm hlt (hlater r hr)
    rw [ih hleft (Listed.cons_iff.mp hright).2.2, List.mem_cons (b := r), not_or]
    refine and_congr_right fun hq => ⟨fun h => ⟨?_, h⟩, And.right⟩
    rintro rfl
    exact hother hq
  | case5 p left r right hnot hnot' ih =>
    -- Positions of one string with one offset are the same, so both are dropped.
    obtain ⟨hp, hlater, hleft⟩ := Listed.cons_iff.mp hleft
    obtain ⟨hr, -, hright⟩ := Listed.cons_iff.mp hright
    have hsame : p = r := hp.eq_of_offset hr (by omega)
    rw [ih hleft hright, List.mem_cons, List.mem_cons, ← hsame, not_or]
    refine ⟨fun ⟨hq, hother⟩ => ⟨.inr hq, ?_, hother⟩, fun ⟨hq, hne, hother⟩ => ⟨?_, hother⟩⟩
    · rintro rfl
      exact Nat.lt_irrefl _ (hlater q hq)
    · exact hq.resolve_left hne

/-! ## Steps -/

/-- A step that takes the positions of a text to all those that a relation leads to. -/
structure Takes (whole : List UInt8) (step : List Position → List Position)
    (leads : Position → Position → Prop) : Prop where
  listed : ∀ {positions}, Listed whole positions → Listed whole (step positions)
  mem_iff : ∀ {positions q}, Listed whole positions →
    (q ∈ step positions ↔ ∃ p ∈ positions, leads p q)

/-- So many steps of a relation. -/
def Chain (leads : Position → Position → Prop) : Nat → Position → Position → Prop
  | 0, p, q => p = q
  | count + 1, p, q => ∃ m, leads p m ∧ Chain leads count m q

variable {step : List Position → List Position} {leads : Position → Position → Prop}

theorem Takes.steps (h : Takes whole step leads) (count : Nat) :
    Takes whole (steps step count) (Chain leads count) := by
  induction count with
  | zero =>
    have hsteps (positions : List Position) : Regex.steps step 0 positions = positions := by
      cases positions <;> rfl
    refine ⟨fun hlisted => by rwa [hsteps], fun hlisted => ?_⟩
    simp [hsteps, Chain]
  | succ count ih =>
    -- Without a position there is nothing to step from, and so the rest need not be looked at.
    have hnone : step [] = [] := by
      refine List.eq_nil_iff_forall_not_mem.mpr fun q hq => ?_
      obtain ⟨p, hp, -⟩ := (h.mem_iff Listed.nil).mp hq
      cases hp
    have hsteps (positions : List Position) :
        Regex.steps step (count + 1) positions = Regex.steps step count (step positions) := by
      cases positions with
      | nil =>
        rw [hnone]
        cases count <;> rfl
      | cons p positions => rfl
    refine ⟨fun hlisted => by rw [hsteps]; exact ih.listed (h.listed hlisted), fun hlisted => ?_⟩
    rw [hsteps, ih.mem_iff (h.listed hlisted)]
    simp only [h.mem_iff hlisted, Chain]
    tauto

/-! ## Spreading out -/

/-- What holds between rounds: only from the fresh positions may a step lead out of those seen. -/
structure Frontier (whole : List UInt8) (leads : Position → Position → Prop)
    (seen fresh : List Position) : Prop where
  listedSeen : Listed whole seen
  listedFresh : Listed whole fresh
  subset : ∀ p ∈ fresh, p ∈ seen
  closed : ∀ p ∈ seen, p ∉ fresh → ∀ q, leads p q → q ∈ seen

namespace Frontier

theorem start (h : Listed whole positions) : Frontier whole leads positions positions :=
  ⟨h, h, fun _ hp => hp, fun _ hp hnot => absurd hp hnot⟩

theorem listedFound (hf : Frontier whole leads seen fresh) (h : Takes whole step leads) :
    Listed whole (minus (step fresh) seen) :=
  (h.listed hf.listedFresh).sublist (minus_sublist _ _)

theorem mem_found (hf : Frontier whole leads seen fresh) (h : Takes whole step leads) :
    q ∈ minus (step fresh) seen ↔ (∃ p ∈ fresh, leads p q) ∧ q ∉ seen := by
  rw [mem_minus (h.listed hf.listedFresh) hf.listedSeen, h.mem_iff hf.listedFresh]

/-- One round adds what a step leads to from any position that was seen. -/
theorem mem_merge_found (hf : Frontier whole leads seen fresh) (h : Takes whole step leads) :
    q ∈ merge seen (minus (step fresh) seen) ↔ q ∈ seen ∨ ∃ p ∈ seen, leads p q := by
  rw [mem_merge hf.listedSeen (hf.listedFound h), hf.mem_found h]
  refine ⟨?_, ?_⟩
  · rintro (hq | ⟨⟨p, hp, hleads⟩, -⟩)
    · exact .inl hq
    · exact .inr ⟨p, hf.subset p hp, hleads⟩
  · rintro (hq | ⟨p, hp, hleads⟩)
    · exact .inl hq
    · by_cases hq : q ∈ seen
      · exact .inl hq
      · by_cases hnew : p ∈ fresh
        · exact .inr ⟨⟨p, hnew, hleads⟩, hq⟩
        · exact absurd (hf.closed p hp hnew q hleads) hq

theorem next (hf : Frontier whole leads seen fresh) (h : Takes whole step leads) :
    Frontier whole leads (merge seen (minus (step fresh) seen)) (minus (step fresh) seen) := by
  have hfound := hf.listedFound h
  refine ⟨hf.listedSeen.merge hfound, hfound, fun p hp => ?_, fun p hp hold q hleads => ?_⟩
  · exact (mem_merge hf.listedSeen hfound).mpr (.inr hp)
  · have hseen := ((mem_merge hf.listedSeen hfound).mp hp).resolve_right hold
    exact (hf.mem_merge_found h).mpr (.inr ⟨p, hseen, hleads⟩)

/-- If a round finds nothing new, no number of steps leads out of what was seen. -/
theorem mem_of_chain (hf : Frontier whole leads seen fresh) (h : Takes whole step leads)
    (hnone : minus (step fresh) seen = []) {count : Nat} (hp : p ∈ seen)
    (hchain : Chain leads count p q) : q ∈ seen := by
  induction count generalizing p with
  | zero => exact hchain ▸ hp
  | succ count ih =>
    obtain ⟨m, hleads, hrest⟩ := hchain
    refine ih ?_ hrest
    by_contra hm
    have hfound := (hf.mem_merge_found h).mpr (.inr ⟨p, hp, hleads⟩)
    rw [hnone] at hfound
    exact hm (((mem_merge hf.listedSeen Listed.nil).mp hfound).resolve_right (List.not_mem_nil))

/-- Spreading out finds what up to so many steps lead to. -/
theorem spread (hf : Frontier whole leads seen fresh) (h : Takes whole step leads) (rounds : Nat) :
    Listed whole (Regex.spread step rounds seen fresh) ∧
      ∀ q, q ∈ Regex.spread step rounds seen fresh ↔
        ∃ p ∈ seen, ∃ count ≤ rounds, Chain leads count p q := by
  induction rounds generalizing seen fresh with
  | zero =>
    refine ⟨hf.listedSeen, fun q => ?_⟩
    simp [Regex.spread, Chain]
  | succ rounds ih =>
    rw [Regex.spread]
    split
    · next hnone =>
      refine ⟨hf.listedSeen, fun q => ⟨fun hq => ⟨q, hq, 0, Nat.zero_le _, rfl⟩, ?_⟩⟩
      rintro ⟨p, hp, count, -, hchain⟩
      exact hf.mem_of_chain h hnone hp hchain
    · obtain ⟨hlisted, hmem⟩ := ih (hf.next h)
      refine ⟨hlisted, fun q => ?_⟩
      rw [hmem]
      refine ⟨?_, ?_⟩
      · rintro ⟨p, hp, count, hcount, hchain⟩
        rcases (hf.mem_merge_found h).mp hp with hp | ⟨m, hm, hleads⟩
        · exact ⟨p, hp, count, by omega, hchain⟩
        · exact ⟨m, hm, count + 1, by omega, p, hleads, hchain⟩
      · rintro ⟨p, hp, count, hcount, hchain⟩
        cases count with
        | zero => exact ⟨p, (hf.mem_merge_found h).mpr (.inl hp), 0, Nat.zero_le _, hchain⟩
        | succ count =>
          obtain ⟨m, hleads, hrest⟩ := hchain
          exact ⟨m, (hf.mem_merge_found h).mpr (.inr ⟨p, hp, hleads⟩), count, by omega, hrest⟩

end Frontier

/-! ## Repetitions -/

theorem leads_copies {condition : StretchCondition} (count : Nat) (hp : p.IsOn whole) :
    Leads whole (Copies condition count) p q ↔ Chain (Leads whole condition) count p q := by
  induction count generalizing p with
  | zero =>
    obtain ⟨front, back, hwhole, hat⟩ := hp
    rw [Position.leads_of_empty_iff hat hwhole fun _ _ h => h]
    exact and_iff_left rfl
  | succ count ih =>
    rw [Copies, Position.leads_then]
    exact exists_congr fun m => and_congr_right fun h => ih h.isOn_right

/-- A copy that does not move on can be left out, so no more copies are needed than there are
    bytes to cover. -/
theorem exists_short_chain {condition : StretchCondition} {count : Nat}
    (h : Chain (Leads whole condition) count p q) :
    ∃ short, short ≤ q.offset - p.offset ∧ p.offset ≤ q.offset ∧
      Chain (Leads whole condition) short p q := by
  induction count generalizing p with
  | zero => exact ⟨0, Nat.zero_le _, le_of_eq (congrArg _ h), h⟩
  | succ count ih =>
    obtain ⟨m, hleads, hrest⟩ := h
    obtain ⟨short, hshort, hoffset, hchain⟩ := ih hrest
    rcases Nat.lt_or_eq_of_le hleads.offset_le with hlt | heq
    · exact ⟨short + 1, by omega, by omega, m, hleads, hchain⟩
    · obtain rfl := hleads.isOn_left.eq_of_offset hleads.isOn_right heq
      exact ⟨short, hshort, hoffset, hchain⟩

theorem chain_add {count more : Nat} :
    Chain leads (count + more) p q ↔ ∃ m, Chain leads count p m ∧ Chain leads more m q := by
  induction count generalizing p with
  | zero => simp [Chain]
  | succ count ih =>
    rw [Nat.succ_add, Chain]
    simp only [ih, Chain]
    tauto

theorem isOn_of_chain {condition : StretchCondition} {count : Nat} (hp : p.IsOn whole)
    (h : Chain (Leads whole condition) count p q) : q.IsOn whole := by
  induction count generalizing p with
  | zero => exact h ▸ hp
  | succ count ih =>
    obtain ⟨m, hleads, hrest⟩ := h
    exact ih hleads.isOn_right hrest

/-- The rounds that a repetition spreads out for. -/
def optionalRounds (size least : Nat) : Option Nat → Nat
  | none => size + 1
  | some bound => bound - least

/-- The rounds of a repetition find exactly the counts that are allowed. -/
theorem exists_chain_iff {condition : StretchCondition} {least : Nat} {most : Option Nat}
    (hp : p.IsOn whole) (hmost : ∀ bound ∈ most, least ≤ bound) :
    (∃ m, Chain (Leads whole condition) least p m ∧
      ∃ count ≤ optionalRounds whole.length least most,
        Chain (Leads whole condition) count m q) ↔
      ∃ count, least ≤ count ∧ (∀ bound ∈ most, count ≤ bound) ∧
        Chain (Leads whole condition) count p q := by
  refine ⟨?_, ?_⟩
  · rintro ⟨m, hleast, count, hcount, hrest⟩
    refine ⟨least + count, Nat.le_add_right _ _, ?_, chain_add.mpr ⟨m, hleast, hrest⟩⟩
    rintro bound rfl
    have hbound := hmost bound rfl
    rw [optionalRounds] at hcount
    omega
  · rintro ⟨count, hleast, hbound, hchain⟩
    obtain ⟨extra, rfl⟩ := Nat.exists_eq_add_of_le hleast
    obtain ⟨m, hfirst, hrest⟩ := chain_add.mp hchain
    cases most with
    | some bound =>
      have hcount := hbound bound rfl
      exact ⟨m, hfirst, extra, by rw [optionalRounds]; omega, hrest⟩
    | none =>
      obtain ⟨short, hshort, -, hrest⟩ := exists_short_chain hrest
      have hoffset := (isOn_of_chain hp hchain).offset_le
      exact ⟨m, hfirst, short, by rw [optionalRounds]; omega, hrest⟩

/-! ## Expressions -/

/-- No repetition in the expression asks for more copies than it allows. -/
def OrderedCounts : Regex → Prop
  | .concat first second => first.OrderedCounts ∧ second.OrderedCounts
  | .either left right => left.OrderedCounts ∧ right.OrderedCounts
  | .times body least most => body.OrderedCounts ∧ ∀ bound ∈ most, least ≤ bound
  | _ => True

/-- A partial map that keeps positions in their order takes each to what it leads to. -/
theorem takes_filterMap {pass : Position → Option Position} {condition : StretchCondition}
    (hpass : ∀ {p q}, p.IsOn whole → (pass p = some q ↔ Leads whole condition p q))
    (horder : ∀ {p p' q q'}, Leads whole condition q q' → Leads whole condition p p' →
      q.offset < p.offset → q'.offset < p'.offset) :
    Takes whole (List.filterMap pass) (Leads whole condition) := by
  refine ⟨fun hlisted => ⟨fun q hq => ?_, ?_⟩, fun hlisted => ?_⟩
  · obtain ⟨p, hp, hq⟩ := List.mem_filterMap.mp hq
    exact ((hpass (hlisted.on p hp)).mp hq).isOn_right
  · refine List.pairwise_filterMap.mpr (hlisted.order.imp_of_mem ?_)
    intro p q hp hq hlt p' hp' q' hq'
    exact horder ((hpass (hlisted.on q hq)).mp hq') ((hpass (hlisted.on p hp)).mp hp') hlt
  · rw [List.mem_filterMap]
    exact exists_congr fun p => and_congr_right fun hp => hpass (hlisted.on p hp)

theorem takes_chars (set : CharSet) :
    Takes whole (List.filterMap (Position.passChar? set))
      (Leads whole (Regex.chars set).Matches) := by
  refine takes_filterMap (fun hp => ?_) Leads.offset_lt_of_chars
  obtain ⟨front, back, hwhole, hat⟩ := hp
  rw [Position.passChar?_eq_some_iff hat, Position.leads_iff hwhole hat]
  refine ⟨?_, ?_⟩
  · rintro ⟨c, rest, hset, rfl, hq⟩
    exact ⟨_, rest, rfl, hq, c, hset, rfl⟩
  · rintro ⟨_, rest, rfl, hq, c, hset, rfl⟩
    exact ⟨c, rest, hset, rfl, hq⟩

theorem takes_anyByte :
    Takes whole (List.filterMap Position.passByte?) (Leads whole Regex.anyByte.Matches) := by
  refine takes_filterMap (fun hp => ?_) ?_
  · obtain ⟨front, back, hwhole, hat⟩ := hp
    rw [Position.passByte?_eq_some_iff hat, Position.leads_iff hwhole hat]
    refine ⟨?_, ?_⟩
    · rintro ⟨byte, rest, rfl, hq⟩
      exact ⟨_, rest, rfl, hq, byte, rfl⟩
    · rintro ⟨_, rest, rfl, hq, byte, rfl⟩
      exact ⟨byte, rest, rfl, hq⟩
  · rintro p p' q q' ⟨_, _, _, -, hq, hq', _, rfl⟩ ⟨_, _, _, -, hp, hp', _, rfl⟩ hlt
    rw [hp.offset, hq.offset] at hlt
    rw [hp'.offset, hq'.offset]
    simp only [List.length_append, List.length_singleton]
    omega

theorem takes_assert (assertion : Assertion) :
    Takes whole (List.filter fun p => assertion.holds p)
      (Leads whole (Regex.assert assertion).Matches) := by
  refine ⟨fun hlisted => hlisted.sublist List.filter_sublist, fun {positions q} hlisted => ?_⟩
  have hleads {p : Position} (hp : p.IsOn whole) :
      Leads whole (Regex.assert assertion).Matches p q ↔ p = q ∧ assertion.holds p = true := by
    obtain ⟨front, back, hwhole, hat⟩ := hp
    rw [Position.leads_of_empty_iff hat hwhole fun _ _ h => h.1, Position.holds_iff hat]
    exact and_congr_right fun _ => and_iff_right rfl
  rw [List.mem_filter]
  refine ⟨fun ⟨hq, hholds⟩ => ⟨q, hq, (hleads (hlisted.on q hq)).mpr ⟨rfl, hholds⟩⟩, ?_⟩
  rintro ⟨p, hp, h⟩
  obtain ⟨rfl, hholds⟩ := (hleads (hlisted.on p hp)).mp h
  exact ⟨hp, hholds⟩

/-- The required copies lead to where the optional ones spread out from. -/
theorem takes_times {body : Regex} {least : Nat} {most : Option Nat}
    (h : Takes whole (ends whole.length body) (Leads whole body.Matches))
    (hmost : ∀ bound ∈ most, least ≤ bound) :
    Takes whole (ends whole.length (.times body least most))
      (Leads whole (Regex.times body least most).Matches) := by
  -- The copies that are required come first, and then rounds until nothing is new.
  have hends (positions : List Position) : ends whole.length (.times body least most) positions =
      spread (ends whole.length body) (optionalRounds whole.length least most)
        (steps (ends whole.length body) least positions)
        (steps (ends whole.length body) least positions) := by
    cases most <;> rfl
  have hsteps := h.steps least
  -- The stretch that so many copies match is a chain of stretches of the body.
  have hleads {p q : Position} (hp : p.IsOn whole) :
      Leads whole (Regex.times body least most).Matches p q ↔
        ∃ count, least ≤ count ∧ (∀ bound ∈ most, count ≤ bound) ∧
          Chain (Leads whole body.Matches) count p q := by
    simp only [← leads_copies _ hp]
    refine ⟨?_, ?_⟩
    · rintro ⟨front, text, back, hwhole, hat, hat', count, hleast, hbound, hcopies⟩
      exact ⟨count, hleast, hbound, front, text, back, hwhole, hat, hat', hcopies⟩
    · rintro ⟨count, hleast, hbound, front, text, back, hwhole, hat, hat', hcopies⟩
      exact ⟨front, text, back, hwhole, hat, hat', count, hleast, hbound, hcopies⟩
  refine ⟨fun hlisted => ?_, fun {positions q} hlisted => ?_⟩
  · rw [hends]
    exact ((Frontier.start (hsteps.listed hlisted)).spread h _).1
  · rw [hends, ((Frontier.start (hsteps.listed hlisted)).spread h _).2]
    simp only [hsteps.mem_iff hlisted]
    refine ⟨?_, ?_⟩
    · rintro ⟨m, ⟨p, hp, hleast⟩, hrest⟩
      exact ⟨p, hp, (hleads (hlisted.on p hp)).mpr
        ((exists_chain_iff (hlisted.on p hp) hmost).mp ⟨m, hleast, hrest⟩)⟩
    · rintro ⟨p, hp, hp'⟩
      obtain ⟨m, hleast, hrest⟩ := (exists_chain_iff (hlisted.on p hp) hmost).mpr
        ((hleads (hlisted.on p hp)).mp hp')
      exact ⟨m, ⟨p, hp, hleast⟩, hrest⟩

theorem takes_empty : Takes whole id (Leads whole Regex.empty.Matches) := by
  refine ⟨id, fun {positions q} hlisted => ?_⟩
  have hleads {p : Position} (hp : p.IsOn whole) : Leads whole Regex.empty.Matches p q ↔ p = q := by
    obtain ⟨front, back, hwhole, hat⟩ := hp
    rw [Position.leads_of_empty_iff hat hwhole fun _ _ h => h]
    exact and_iff_left rfl
  refine ⟨fun hq => ⟨q, hq, (hleads (hlisted.on q hq)).mpr rfl⟩, ?_⟩
  rintro ⟨p, hp, h⟩
  exact (hleads (hlisted.on p hp)).mp h ▸ hp

/-- The matcher takes positions to those that the stretches an expression matches lead to. -/
theorem takes_ends {regex : Regex} (h : regex.OrderedCounts) :
    Takes whole (ends whole.length regex) (Leads whole regex.Matches) := by
  induction regex with
  | empty => exact takes_empty
  | chars set => exact takes_chars set
  | anyByte => exact takes_anyByte
  | assert assertion => exact takes_assert assertion
  | concat first second ihf ihs =>
    refine ⟨fun hlisted => (ihs h.2).listed ((ihf h.1).listed hlisted), fun hlisted => ?_⟩
    rw [ends, (ihs h.2).mem_iff ((ihf h.1).listed hlisted)]
    simp only [(ihf h.1).mem_iff hlisted, Matches, Position.leads_then]
    tauto
  | either left right ihl ihr =>
    have hleads {p q : Position} : Leads whole (Regex.either left right).Matches p q ↔
        Leads whole left.Matches p q ∨ Leads whole right.Matches p q := by
      simp only [Leads, Matches, ← exists_or, ← and_or_left]
    refine ⟨fun hlisted => ((ihl h.1).listed hlisted).merge ((ihr h.2).listed hlisted),
      fun hlisted => ?_⟩
    rw [ends, mem_merge ((ihl h.1).listed hlisted) ((ihr h.2).listed hlisted),
      (ihl h.1).mem_iff hlisted, (ihr h.2).mem_iff hlisted]
    simp only [hleads, and_or_left, exists_or]
  | times body least most ih => exact takes_times (ih h.1) h.2

/-- The matcher accepts exactly the names in the language. -/
theorem isMatch_iff {regex : Regex} (h : regex.OrderedCounts) (name : String) :
    regex.isMatch name = true ↔ name ∈ regex.language := by
  have hstart := Position.isAt_start name.toList
  have hwhole : [] ++ encode name.toList = encode name.toList := rfl
  have hlisted : Listed (encode name.toList) [Position.start name.toList] :=
    Listed.cons_iff.mpr ⟨⟨_, _, hwhole, hstart⟩, by simp, Listed.nil⟩
  have hends (q : Position) :
      q ∈ ends (encode name.toList).length regex [Position.start name.toList] ↔
        ∃ text rest, encode name.toList = text ++ rest ∧ q.IsAt text rest ∧
          regex.Matches [] text rest := by
    rw [(takes_ends h).mem_iff hlisted]
    simp only [List.mem_singleton, exists_eq_left, Position.leads_iff hwhole hstart,
      List.nil_append]
  change (ends (encode name.toList).length regex [Position.start name.toList]).any Position.atEnd =
    true ↔ regex.Matches [] (encode name.toList) []
  rw [List.any_eq_true]
  refine ⟨?_, fun hmatches => ?_⟩
  · rintro ⟨q, hq, hend⟩
    obtain ⟨text, rest, heq, hat, hmatches⟩ := (hends q).mp hq
    obtain rfl := hat.atEnd_iff.mp hend
    rw [heq, List.append_nil]
    exact hmatches
  · have hpast : (Position.start name.toList).IsAt [] (encode name.toList ++ []) := by
      rwa [List.append_nil]
    obtain ⟨q, hq⟩ := hpast.exists_past
    exact ⟨q, (hends q).mpr ⟨_, [], (List.append_nil _).symm, hq, hmatches⟩, hq.atEnd_iff.mpr rfl⟩

end CallSites.Regex
