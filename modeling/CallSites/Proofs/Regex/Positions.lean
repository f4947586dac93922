/-
  CallSites.Proofs.Regex.Positions

  The positions of a matcher as places between the bytes of a text. Where a position stands decides
  everything that it records, so within one text its offset tells it apart from all others.
-/
import CallSites.Proofs.Regex.Language
import CallSites.Proofs.Text.Utf8
import CallSites.Regex.Match

namespace CallSites.Regex

open CallSites.Text.Utf8 (encode)

/-! ## First bytes -/

/-- A character at the front of some bytes is the only one there. -/
theorem utf8EncodeChar_append_inj {c d : Char} {rest others : List UInt8}
    (h : String.utf8EncodeChar c ++ rest = String.utf8EncodeChar d ++ others) :
    c = d ∧ rest = others := by
  have hbytes : (String.utf8EncodeChar c).toByteArray ++ rest.toByteArray =
      (String.utf8EncodeChar d).toByteArray ++ others.toByteArray := by
    rw [← List.toByteArray_append, ← List.toByteArray_append, h]
  have hc := ByteArray.utf8DecodeChar?_utf8EncodeChar_append (b := rest.toByteArray) (c := c)
  rw [hbytes, ByteArray.utf8DecodeChar?_utf8EncodeChar_append] at hc
  cases hc
  exact ⟨rfl, List.append_cancel_left h⟩

theorem encode_injective {text other : List Char} (h : encode text = encode other) :
    text = other := by
  have hread := Text.Utf8.decode_eq_ok_iff.mpr h
  rw [Text.Utf8.decode_eq_ok_iff.mpr rfl] at hread
  exact (Except.ok.inj hread).symm

/-- The bytes of a character begin with a first byte, and no other byte of it is one. -/
theorem exists_utf8EncodeChar_eq_cons (c : Char) :
    ∃ first others, String.utf8EncodeChar c = first :: others ∧ first.IsUTF8FirstByte ∧
      ∀ byte ∈ others, ¬ byte.IsUTF8FirstByte := by
  cases hbytes : String.utf8EncodeChar c with
  | nil => exact absurd hbytes String.utf8EncodeChar_ne_nil
  | cons first others =>
    refine ⟨first, others, rfl, ?_, ?_⟩
    · have hlength : 0 < (String.utf8EncodeChar c).length := by
        rw [hbytes]
        exact Nat.succ_pos _
      have hfirst : (String.utf8EncodeChar c)[0].IsUTF8FirstByte ↔ 0 = 0 :=
        UInt8.isUTF8FirstByte_getElem_utf8EncodeChar
      simpa [hbytes] using hfirst
    · intro byte hmem
      obtain ⟨index, hindex, rfl⟩ := List.mem_iff_getElem.mp hmem
      have hlength : index + 1 < (String.utf8EncodeChar c).length := by
        rw [hbytes]
        exact Nat.succ_lt_succ hindex
      have hother : (String.utf8EncodeChar c)[index + 1].IsUTF8FirstByte ↔ index + 1 = 0 :=
        UInt8.isUTF8FirstByte_getElem_utf8EncodeChar
      simpa [hbytes] using hother

theorem isFirst_of_encode_eq_cons {text : List Char} {byte : UInt8} {rest : List UInt8}
    (h : encode text = byte :: rest) : byte.IsUTF8FirstByte := by
  cases text with
  | nil => cases h
  | cons c text =>
    obtain ⟨first, others, hc, hfirst, -⟩ := exists_utf8EncodeChar_eq_cons c
    rw [encode, List.flatMap_cons, hc] at h
    exact (List.cons.inj h).1 ▸ hfirst

/-- A character begins behind another one, not inside it. -/
theorem length_le_of_utf8EncodeChar_append {c d : Char} {between rest others : List UInt8}
    (h : String.utf8EncodeChar c ++ rest = between ++ (String.utf8EncodeChar d ++ others))
    (hbetween : between ≠ []) : (String.utf8EncodeChar c).length ≤ between.length := by
  rcases List.append_eq_append_iff.mp h with ⟨more, rfl, -⟩ | ⟨inside, hc, hd⟩
  · rw [List.length_append]
    exact Nat.le_add_right _ _
  · cases inside with
    | nil => rw [hc, List.append_nil]
    | cons byte inside =>
      obtain ⟨first, later, hfirst, hbyte, -⟩ := exists_utf8EncodeChar_eq_cons d
      obtain ⟨_, tail, htail, -, hnot⟩ := exists_utf8EncodeChar_eq_cons c
      rw [hfirst, List.cons_append, List.cons_append] at hd
      obtain ⟨rfl, -⟩ := List.cons.inj hd
      obtain ⟨lead, between, rfl⟩ := List.exists_cons_of_ne_nil hbetween
      rw [htail, List.cons_append] at hc
      refine absurd hbyte (hnot first ?_)
      rw [(List.cons.inj hc).2]
      simp

/-- The rest of a divided character and the characters after it can be told apart. -/
theorem pending_append_inj {pending others : List UInt8} {ahead behind : List Char}
    (hpending : ∀ byte ∈ pending, ¬ byte.IsUTF8FirstByte)
    (hothers : ∀ byte ∈ others, ¬ byte.IsUTF8FirstByte)
    (h : pending ++ encode ahead = others ++ encode behind) :
    pending = others ∧ ahead = behind := by
  induction pending generalizing others with
  | nil =>
    cases others with
    | nil => exact ⟨rfl, encode_injective h⟩
    | cons byte others =>
      exact absurd (isFirst_of_encode_eq_cons h) (hothers byte List.mem_cons_self)
  | cons byte pending ih =>
    cases others with
    | nil => exact absurd (isFirst_of_encode_eq_cons h.symm) (hpending byte List.mem_cons_self)
    | cons other others =>
      obtain ⟨rfl, htail⟩ := List.cons.inj h
      obtain ⟨rfl, rfl⟩ := ih (fun b hb => hpending b (List.mem_cons_of_mem _ hb))
        (fun b hb => hothers b (List.mem_cons_of_mem _ hb)) htail
      exact ⟨rfl, rfl⟩

/-! ## Where a position stands -/

namespace Position

/-- The position stands between the bytes in front of it and those behind it. -/
structure IsAt (position : Position) (front back : List UInt8) : Prop where
  offset : position.offset = front.length
  before : position.before = front.getLast?
  bytes : position.pending ++ encode position.ahead = back
  pending : ∀ byte ∈ position.pending, ¬ byte.IsUTF8FirstByte

variable {p q : Position} {front back whole : List UInt8}

theorem isAt_start (text : List Char) : (start text).IsAt [] (encode text) :=
  ⟨rfl, rfl, rfl, by simp [start]⟩

theorem IsAt.unique (hp : p.IsAt front back) (hq : q.IsAt front back) : p = q := by
  obtain ⟨hpending, hahead⟩ :=
    pending_append_inj hp.pending hq.pending (hp.bytes.trans hq.bytes.symm)
  cases p
  cases q
  cases hp.offset.trans hq.offset.symm
  cases hp.before.trans hq.before.symm
  cases hpending
  cases hahead
  rfl

theorem IsAt.after (h : p.IsAt front back) : p.after = back.head? := by
  rw [← h.bytes, Position.after]
  split
  · next hp => rw [hp]; rfl
  · next c ahead hp ha =>
    obtain ⟨first, others, hc, -, -⟩ := exists_utf8EncodeChar_eq_cons c
    rw [hp, ha, encode, List.flatMap_cons, hc]
    rfl
  · next hp ha => rw [hp, ha]; rfl

theorem IsAt.atEnd_iff (h : p.IsAt front back) : p.atEnd = true ↔ back = [] := by
  rw [← h.bytes, atEnd, Bool.and_eq_true, List.isEmpty_iff, List.isEmpty_iff,
    List.append_eq_nil_iff]
  refine and_congr_right fun _ => ⟨fun ha => by rw [ha]; rfl, fun ha => ?_⟩
  exact encode_injective (ha : encode p.ahead = encode [])

/-! ## Moving on -/

/-- Past one byte, wherever there is one. -/
theorem IsAt.exists_passByte {byte : UInt8} {rest : List UInt8}
    (h : p.IsAt front (byte :: rest)) :
    ∃ q, p.passByte? = some q ∧ q.IsAt (front ++ [byte]) rest := by
  have hoffset : p.offset + 1 = (front ++ [byte]).length := by
    rw [h.offset, List.length_append, List.length_singleton]
  have hbefore : some byte = (front ++ [byte]).getLast? := by
    rw [List.getLast?_append, List.getLast?_singleton, Option.some_or]
  have hbytes := h.bytes
  cases hp : p.pending with
  | cons first pending =>
    rw [hp, List.cons_append] at hbytes
    obtain ⟨rfl, htail⟩ := List.cons.inj hbytes
    refine ⟨⟨p.offset + 1, some first, pending, p.ahead⟩, by rw [passByte?, hp], ?_⟩
    exact ⟨hoffset, hbefore, htail,
      fun b hb => h.pending b (hp ▸ List.mem_cons_of_mem _ hb)⟩
  | nil =>
    cases ha : p.ahead with
    | nil =>
      rw [hp, ha] at hbytes
      cases hbytes
    | cons c ahead =>
      obtain ⟨first, others, hc, -, hothers⟩ := exists_utf8EncodeChar_eq_cons c
      rw [hp, ha, encode, List.flatMap_cons, hc, List.nil_append, List.cons_append] at hbytes
      obtain ⟨rfl, htail⟩ := List.cons.inj hbytes
      refine ⟨⟨p.offset + 1, some first, others, ahead⟩, by simp only [passByte?, hp, ha, hc], ?_⟩
      exact ⟨hoffset, hbefore, htail, hothers⟩

theorem passByte?_eq_some_iff (h : p.IsAt front back) :
    p.passByte? = some q ↔ ∃ byte rest, back = byte :: rest ∧ q.IsAt (front ++ [byte]) rest := by
  cases back with
  | nil =>
    obtain ⟨hp, ha⟩ := List.append_eq_nil_iff.mp h.bytes
    have hahead : p.ahead = [] := encode_injective (ha : encode p.ahead = encode [])
    simp [passByte?, hp, hahead]
  | cons byte rest =>
    obtain ⟨next, hnext, hat⟩ := h.exists_passByte
    rw [hnext, Option.some.injEq]
    refine ⟨?_, ?_⟩
    · rintro rfl
      exact ⟨byte, rest, rfl, hat⟩
    · rintro ⟨b, others, heq, hq⟩
      cases heq
      exact hat.unique hq

/-- Inside a character no character begins. -/
theorem IsAt.pending_eq_nil {c : Char} {rest : List UInt8}
    (h : p.IsAt front (String.utf8EncodeChar c ++ rest)) :
    p.pending = [] ∧ ∃ ahead, p.ahead = c :: ahead ∧ encode ahead = rest := by
  obtain ⟨first, others, hc, hfirst, -⟩ := exists_utf8EncodeChar_eq_cons c
  have hbytes := h.bytes
  cases hp : p.pending with
  | cons byte pending =>
    rw [hp, hc, List.cons_append, List.cons_append] at hbytes
    obtain ⟨rfl, -⟩ := List.cons.inj hbytes
    exact absurd hfirst (h.pending byte (hp ▸ List.mem_cons_self))
  | nil =>
    cases ha : p.ahead with
    | nil =>
      rw [hp, ha, hc] at hbytes
      cases hbytes
    | cons d ahead =>
      rw [hp, ha, encode, List.flatMap_cons, List.nil_append] at hbytes
      obtain ⟨rfl, hrest⟩ := utf8EncodeChar_append_inj hbytes
      exact ⟨rfl, ahead, rfl, hrest⟩

/-- Past one character. -/
theorem passChar?_eq_some_iff {set : CharSet} (h : p.IsAt front back) :
    p.passChar? set = some q ↔
      ∃ c : Char, ∃ rest, set.Has c.toNat ∧ back = String.utf8EncodeChar c ++ rest ∧
        q.IsAt (front ++ String.utf8EncodeChar c) rest := by
  have hpassed (c : Char) (ahead : List Char)
      (hbytes : back = String.utf8EncodeChar c ++ encode ahead) :
      IsAt ⟨p.offset + (String.utf8EncodeChar c).length, (String.utf8EncodeChar c).getLast?, [],
        ahead⟩ (front ++ String.utf8EncodeChar c) (encode ahead) := by
    refine ⟨by rw [h.offset, List.length_append], ?_, rfl, by simp⟩
    rw [List.getLast?_append_of_ne_nil _ String.utf8EncodeChar_ne_nil]
  refine ⟨fun hpass => ?_, ?_⟩
  · unfold passChar? at hpass
    split at hpass
    · next c ahead hp ha =>
      have hbytes : back = String.utf8EncodeChar c ++ encode ahead := by
        rw [← h.bytes, hp, ha, encode, List.flatMap_cons, List.nil_append, encode]
      split at hpass
      · next hset =>
        cases hpass
        exact ⟨c, encode ahead, CharSet.contains_iff.mp hset, hbytes, hpassed c ahead hbytes⟩
      · cases hpass
    · cases hpass
  · rintro ⟨c, rest, hset, rfl, hq⟩
    obtain ⟨hp, ahead, ha, rfl⟩ := h.pending_eq_nil
    rw [passChar?, hp, ha]
    simp only [CharSet.contains_iff.mpr hset, if_true, Option.some.injEq]
    exact (hpassed c ahead rfl).unique hq

/-- Every place in a text has its position. -/
theorem IsAt.exists_past {text : List UInt8} (h : p.IsAt front (text ++ back)) :
    ∃ q : Position, q.IsAt (front ++ text) back := by
  induction text generalizing p front with
  | nil => exact ⟨p, by simpa using h⟩
  | cons byte text ih =>
    obtain ⟨next, -, hnext⟩ := h.exists_passByte
    obtain ⟨q, hq⟩ := ih hnext
    exact ⟨q, by simpa using hq⟩

/-! ## Assertions -/

theorem isWordByte_iff {byte : UInt8} : isWordByte byte = true ↔ IsWordByte byte := by
  have hvalid : byte.toNat.isValidChar := .inl (by have := byte.toNat_lt; omega)
  have hcode : (Char.ofNat byte.toNat).val.toNat = byte.toNat := by
    have hof := Char.toNat_ofNat byte.toNat
    rwa [if_pos hvalid] at hof
  have hlow : (byte == 0x5F) = true ↔ byte.toNat = 0x5F := by
    rw [beq_iff_eq, ← UInt8.toNat_inj]
    rfl
  have hbounds : 'A'.val.toNat = 0x41 ∧ 'Z'.val.toNat = 0x5A ∧ 'a'.val.toNat = 0x61 ∧
      'z'.val.toNat = 0x7A ∧ '0'.val.toNat = 0x30 ∧ '9'.val.toNat = 0x39 := by decide
  rw [isWordByte, IsWordByte, Bool.or_eq_true, hlow]
  simp only [Char.isAlphanum, Char.isAlpha, Char.isUpper, Char.isLower, Char.isDigit,
    Bool.or_eq_true, Bool.and_eq_true, decide_eq_true_eq, UInt32.le_iff_toNat_le, ge_iff_le, hcode,
    hbounds]
  omega

theorem any_isWordByte_iff {byte : Option UInt8} :
    byte.any isWordByte = true ↔ ∃ b ∈ byte, IsWordByte b := by
  simp only [Option.any_eq_true, isWordByte_iff]
  rfl

theorem holds_iff {assertion : Assertion} (h : p.IsAt front back) :
    assertion.holds p = true ↔ assertion.HoldsBetween front back := by
  have hjoins : (p.before.any isWordByte = p.after.any isWordByte) ↔ JoinsAlike front back := by
    rw [Bool.eq_iff_iff, any_isWordByte_iff, any_isWordByte_iff, h.before, h.after, JoinsAlike]
  cases assertion with
  | textStart =>
    rw [Assertion.holds, h.before]
    simp [Assertion.HoldsBetween]
  | textEnd =>
    rw [Assertion.holds, h.after]
    simp [Assertion.HoldsBetween]
  | lineStart =>
    rw [Assertion.holds, h.before]
    rcases List.eq_nil_or_concat' front with rfl | ⟨init, last, rfl⟩ <;>
      simp [Assertion.HoldsBetween]
  | lineEnd =>
    rw [Assertion.holds, h.after]
    cases back <;> simp [Assertion.HoldsBetween]
  | wordBoundary =>
    rw [Assertion.holds, bne_iff_ne, ne_eq, hjoins]
    rfl
  | notWordBoundary =>
    rw [Assertion.holds, beq_iff_eq, hjoins]
    rfl

/-! ## Places in one text -/

/-- The position stands somewhere in the text. -/
def IsOn (whole : List UInt8) (p : Position) : Prop :=
  ∃ front back, front ++ back = whole ∧ p.IsAt front back

theorem IsOn.offset_le (h : p.IsOn whole) : p.offset ≤ whole.length := by
  obtain ⟨front, back, rfl, hp⟩ := h
  rw [hp.offset, List.length_append]
  exact Nat.le_add_right _ _

/-- Two positions of one text with the same offset are the same. -/
theorem IsOn.eq_of_offset (hp : p.IsOn whole) (hq : q.IsOn whole) (h : p.offset = q.offset) :
    p = q := by
  obtain ⟨front, back, hwhole, hp⟩ := hp
  obtain ⟨front', back', rfl, hq⟩ := hq
  have hlength : front.length = front'.length := by rw [← hp.offset, h, hq.offset]
  obtain ⟨rfl, rfl⟩ := List.append_inj hwhole hlength
  exact hp.unique hq

/-- A stretch of the text that keeps to the condition leads from one position to the other. -/
def Leads (whole : List UInt8) (condition : StretchCondition) (p q : Position) : Prop :=
  ∃ front text back, front ++ (text ++ back) = whole ∧ p.IsAt front (text ++ back) ∧
    q.IsAt (front ++ text) back ∧ condition front text back

section Leads

variable {condition : StretchCondition}

theorem Leads.isOn_left (h : Leads whole condition p q) : p.IsOn whole := by
  obtain ⟨front, text, back, hwhole, hp, -, -⟩ := h
  exact ⟨front, text ++ back, hwhole, hp⟩

theorem Leads.isOn_right (h : Leads whole condition p q) : q.IsOn whole := by
  obtain ⟨front, text, back, hwhole, -, hq, -⟩ := h
  exact ⟨front ++ text, back, by rw [List.append_assoc, hwhole], hq⟩

theorem Leads.offset_le (h : Leads whole condition p q) : p.offset ≤ q.offset := by
  obtain ⟨front, text, back, -, hp, hq, -⟩ := h
  rw [hp.offset, hq.offset, List.length_append]
  exact Nat.le_add_right _ _

/-- Seen from its place, a position leads to where a stretch of what follows ends. -/
theorem leads_iff (hwhole : front ++ back = whole) (hp : p.IsAt front back) :
    Leads whole condition p q ↔
      ∃ text rest, back = text ++ rest ∧ q.IsAt (front ++ text) rest ∧
        condition front text rest := by
  refine ⟨?_, ?_⟩
  · rintro ⟨front', text, rest, hwhole', hp', hq, h⟩
    have hlength : front.length = front'.length := by rw [← hp.offset, hp'.offset]
    obtain ⟨rfl, rfl⟩ := List.append_inj (hwhole.trans hwhole'.symm) hlength
    exact ⟨text, rest, rfl, hq, h⟩
  · rintro ⟨text, rest, rfl, hq, h⟩
    exact ⟨front, text, rest, hwhole, hp, hq, h⟩

/-- An empty stretch leads nowhere else. -/
theorem leads_of_empty_iff (hp : p.IsAt front back) (hwhole : front ++ back = whole)
    (h : ∀ text rest, condition front text rest → text = []) :
    Leads whole condition p q ↔ p = q ∧ condition front [] back := by
  rw [leads_iff hwhole hp]
  refine ⟨?_, ?_⟩
  · rintro ⟨text, rest, rfl, hq, hcondition⟩
    obtain rfl := h text rest hcondition
    rw [List.append_nil] at hq
    exact ⟨hp.unique hq, hcondition⟩
  · rintro ⟨rfl, hcondition⟩
    exact ⟨[], back, rfl, by rwa [List.append_nil], hcondition⟩

theorem leads_then {first second : StretchCondition} :
    Leads whole (Then first second) p q ↔
      ∃ m, Leads whole first p m ∧ Leads whole second m q := by
  refine ⟨?_, ?_⟩
  · rintro ⟨front, text, back, hwhole, hp, hq, left, right, rfl, hfirst, hsecond⟩
    rw [List.append_assoc] at hp hwhole
    rw [← List.append_assoc] at hq
    obtain ⟨m, hm⟩ := hp.exists_past
    exact ⟨m, ⟨front, left, right ++ back, hwhole, hp, hm, hfirst⟩,
      ⟨front ++ left, right, back, by rw [List.append_assoc, hwhole], hm, hq, hsecond⟩⟩
  · rintro ⟨m, ⟨front, left, back', hwhole, hp, hm, hfirst⟩, hrest⟩
    rw [← List.append_assoc] at hwhole
    obtain ⟨right, back, rfl, hq, hsecond⟩ := (leads_iff hwhole hm).mp hrest
    rw [List.append_assoc] at hwhole hq
    rw [← List.append_assoc] at hp
    exact ⟨front, left ++ right, back, by rw [List.append_assoc, hwhole], hp, hq, left, right, rfl,
      hfirst, hsecond⟩

/-- Of two characters, the one that begins later ends later. -/
theorem Leads.offset_lt_of_chars {set : CharSet} {p' q' : Position}
    (hq : Leads whole (Regex.chars set).Matches q q')
    (hp : Leads whole (Regex.chars set).Matches p p') (h : q.offset < p.offset) :
    q'.offset < p'.offset := by
  obtain ⟨front, _, rest, hwhole, hat, hat', c, -, rfl⟩ := hq
  obtain ⟨later, _, others, hwhole', hlater, hlater', d, -, rfl⟩ := hp
  rw [hat.offset, hlater.offset] at h
  have hprefix : front <+: later := by
    refine List.prefix_of_prefix_length_le ⟨_, hwhole⟩ ⟨_, hwhole'⟩ h.le
  obtain ⟨between, rfl⟩ := hprefix
  rw [← hwhole', List.append_assoc] at hwhole
  rw [List.length_append] at h
  have hbetween : between ≠ [] := List.ne_nil_of_length_pos (by omega)
  have hlength := length_le_of_utf8EncodeChar_append (List.append_cancel_left hwhole) hbetween
  have hd := List.length_pos_of_ne_nil (String.utf8EncodeChar_ne_nil (c := d))
  rw [hat'.offset, hlater'.offset]
  simp only [List.length_append]
  omega

end Leads

end Position

end CallSites.Regex
