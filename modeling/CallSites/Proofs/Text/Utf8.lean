/-
  CallSites.Proofs.Text.Utf8

  Bytes are read as a text exactly if they are the bytes of that text. So whatever is refused
  encodes no text at all.
-/
import CallSites.Text.Utf8
import CallSites.Proofs.Outcome

namespace CallSites.Text.Utf8

variable {a b c d : UInt8}

/-! ## Sequences of bytes -/

theorem decodeOnto_one (done : List Char) (rest : List UInt8) (ha : a.toNat < 0x80) :
    decodeOnto done (a :: rest) = decodeOnto (Char.ofNat a.toNat :: done) rest := by
  rw [decodeOnto.eq_def]
  simp only [if_pos ha]

theorem decodeOnto_two (done : List Char) (rest : List UInt8) (ha : 0xC2 ≤ a.toNat)
    (ha' : a.toNat < 0xE0) (hb : 0x80 ≤ b.toNat) (hb' : b.toNat < 0xC0) :
    decodeOnto done (a :: b :: rest) =
      decodeOnto (Char.ofNat ((a.toNat - 0xC0) * 64 + (b.toNat - 0x80)) :: done) rest := by
  have hrange : secondRange a.toNat = (0x80, 0xC0) := by
    rw [secondRange, if_neg (by omega), if_neg (by omega), if_neg (by omega), if_neg (by omega)]
  rw [decodeOnto.eq_def]
  simp only [hrange]
  rw [if_neg (by omega), if_neg (by simp; omega), if_neg (by simp; omega), if_pos ha']

theorem decodeOnto_three (done : List Char) (rest : List UInt8) (ha : 0xE0 ≤ a.toNat)
    (ha' : a.toNat < 0xF0) (hb : (secondRange a.toNat).1 ≤ b.toNat)
    (hb' : b.toNat < (secondRange a.toNat).2) (hc : isContinuation c.toNat = true) :
    decodeOnto done (a :: b :: c :: rest) =
      decodeOnto (Char.ofNat ((a.toNat - 0xE0) * 4096 + (b.toNat - 0x80) * 64 + (c.toNat - 0x80))
        :: done) rest := by
  rw [decodeOnto.eq_def]
  simp only
  rw [if_neg (by omega), if_neg (by simp; omega), if_neg (by simp; omega), if_neg (by omega),
    if_neg (by simp [hc]), if_pos ha']

theorem decodeOnto_four (done : List Char) (rest : List UInt8) (ha : 0xF0 ≤ a.toNat)
    (ha' : a.toNat < 0xF5) (hb : (secondRange a.toNat).1 ≤ b.toNat)
    (hb' : b.toNat < (secondRange a.toNat).2) (hc : isContinuation c.toNat = true)
    (hd : isContinuation d.toNat = true) :
    decodeOnto done (a :: b :: c :: d :: rest) =
      decodeOnto (Char.ofNat ((a.toNat - 0xF0) * 262144 + (b.toNat - 0x80) * 4096 +
        (c.toNat - 0x80) * 64 + (d.toNat - 0x80)) :: done) rest := by
  rw [decodeOnto.eq_def]
  simp only
  rw [if_neg (by omega), if_neg (by simp; omega), if_neg (by simp; omega), if_neg (by omega),
    if_neg (by simp [hc]), if_neg (by omega), if_neg (by simp [hd])]

/-- The bounds of the second byte leave no shorter form, no surrogate and no value past the last
    code point. -/
theorem secondRange_three (first second : Nat) (h : 0xE0 ≤ first) (h' : first < 0xF0) :
    (secondRange first).1 ≤ second ∧ second < (secondRange first).2 ↔
      0x80 ≤ second ∧ second < 0xC0 ∧ 0x800 ≤ (first - 0xE0) * 4096 + (second - 0x80) * 64 ∧
        ¬ (0xD800 ≤ (first - 0xE0) * 4096 + (second - 0x80) * 64 ∧
          (first - 0xE0) * 4096 + (second - 0x80) * 64 < 0xE000) := by
  unfold secondRange
  split_ifs <;> simp <;> omega

theorem secondRange_four (first second : Nat) (h : 0xF0 ≤ first) (h' : first < 0xF5) :
    (secondRange first).1 ≤ second ∧ second < (secondRange first).2 ↔
      0x80 ≤ second ∧ second < 0xC0 ∧
        0x10000 ≤ (first - 0xF0) * 262144 + (second - 0x80) * 4096 ∧
        (first - 0xF0) * 262144 + (second - 0x80) * 4096 < 0x110000 := by
  unfold secondRange
  split_ifs <;> simp <;> omega

theorem isContinuation_iff {byte : Nat} :
    isContinuation byte = true ↔ 0x80 ≤ byte ∧ byte < 0xC0 := by
  simp [isContinuation]

/-! ## Reading what was written -/

theorem decodeOnto_encode_append (done : List Char) (c : Char) (rest : List UInt8) :
    decodeOnto done (String.utf8EncodeChar c ++ rest) = decodeOnto (c :: done) rest := by
  have hvalid : c.val.toNat < 0xD800 ∨ 0xDFFF < c.val.toNat ∧ c.val.toNat < 0x110000 := c.valid
  have hself : Char.ofNat c.val.toNat = c := Char.ofNat_toNat c
  have hbyte : ∀ n, n < 256 → (UInt8.ofNat n).toNat = n := fun n hn => UInt8.toNat_ofNat_of_lt hn
  rw [String.utf8EncodeChar]
  generalize c.val.toNat = v at hvalid hself ⊢
  subst hself
  -- One case for each length, as the encoder has them.
  split_ifs with h1 h2 h3
  · have hfirst := hbyte v (by omega)
    rw [List.singleton_append, decodeOnto_one _ _ (by omega), hfirst]
  · have hfirst := hbyte (v / 64 % 32 + 192) (by omega)
    have hsecond := hbyte (v % 64 + 128) (by omega)
    have hvalue : (v / 64 % 32 + 192 - 0xC0) * 64 + (v % 64 + 128 - 0x80) = v := by omega
    rw [List.cons_append, List.singleton_append,
      decodeOnto_two _ _ (by omega) (by omega) (by omega) (by omega), hfirst, hsecond, hvalue]
  · have hfirst := hbyte (v / 4096 % 16 + 224) (by omega)
    have hsecond := hbyte (v / 64 % 64 + 128) (by omega)
    have hthird := hbyte (v % 64 + 128) (by omega)
    have hvalue : (v / 4096 % 16 + 224 - 0xE0) * 4096 + (v / 64 % 64 + 128 - 0x80) * 64 +
        (v % 64 + 128 - 0x80) = v := by omega
    have hrange := (secondRange_three (v / 4096 % 16 + 224) (v / 64 % 64 + 128) (by omega)
      (by omega)).mpr ⟨by omega, by omega, by omega, by omega⟩
    rw [← hfirst, ← hsecond] at hrange
    rw [List.cons_append, List.cons_append, List.singleton_append,
      decodeOnto_three _ _ (by omega) (by omega) hrange.1 hrange.2
        (isContinuation_iff.mpr (by omega)), hfirst, hsecond, hthird, hvalue]
  · have hfirst := hbyte (v / 262144 % 8 + 240) (by omega)
    have hsecond := hbyte (v / 4096 % 64 + 128) (by omega)
    have hthird := hbyte (v / 64 % 64 + 128) (by omega)
    have hfourth := hbyte (v % 64 + 128) (by omega)
    have hvalue : (v / 262144 % 8 + 240 - 0xF0) * 262144 + (v / 4096 % 64 + 128 - 0x80) * 4096 +
        (v / 64 % 64 + 128 - 0x80) * 64 + (v % 64 + 128 - 0x80) = v := by omega
    have hrange := (secondRange_four (v / 262144 % 8 + 240) (v / 4096 % 64 + 128) (by omega)
      (by omega)).mpr ⟨by omega, by omega, by omega, by omega⟩
    rw [← hfirst, ← hsecond] at hrange
    rw [List.cons_append, List.cons_append, List.cons_append, List.singleton_append,
      decodeOnto_four _ _ (by omega) (by omega) hrange.1 hrange.2
        (isContinuation_iff.mpr (by omega)) (isContinuation_iff.mpr (by omega)), hfirst, hsecond,
      hthird, hfourth, hvalue]

theorem decodeOnto_encode (done text : List Char) :
    decodeOnto done (encode text) = .ok (done.reverse ++ text) := by
  induction text generalizing done with
  | nil => simp [encode, decodeOnto]
  | cons c text ih =>
    rw [encode, List.flatMap_cons, decodeOnto_encode_append, ← encode, ih, List.reverse_cons,
      List.append_assoc, List.singleton_append]

/-! ## What was read was written -/

theorem utf8EncodeChar_one (ha : a.toNat < 0x80) :
    String.utf8EncodeChar (Char.ofNat a.toNat) = [a] := by
  have hvalue : (Char.ofNat a.toNat).val.toNat = a.toNat :=
    (Char.toNat_ofNat _).trans (if_pos (Or.inl (by omega)))
  rw [String.utf8EncodeChar, hvalue, if_pos (by omega), UInt8.ofNat_toNat]

theorem utf8EncodeChar_two (ha : 0xC2 ≤ a.toNat) (ha' : a.toNat < 0xE0) (hb : 0x80 ≤ b.toNat)
    (hb' : b.toNat < 0xC0) :
    String.utf8EncodeChar (Char.ofNat ((a.toNat - 0xC0) * 64 + (b.toNat - 0x80))) = [a, b] := by
  have hvalue : (Char.ofNat ((a.toNat - 0xC0) * 64 + (b.toNat - 0x80))).val.toNat =
      (a.toNat - 0xC0) * 64 + (b.toNat - 0x80) :=
    (Char.toNat_ofNat _).trans (if_pos (Or.inl (by omega)))
  rw [String.utf8EncodeChar, hvalue]
  generalize hv : (a.toNat - 0xC0) * 64 + (b.toNat - 0x80) = v
  rw [if_neg (by omega), if_pos (by omega), show v / 64 % 32 + 192 = a.toNat by omega,
    show v % 64 + 128 = b.toNat by omega, UInt8.ofNat_toNat, UInt8.ofNat_toNat]

theorem utf8EncodeChar_three (ha : 0xE0 ≤ a.toNat) (ha' : a.toNat < 0xF0)
    (hb : (secondRange a.toNat).1 ≤ b.toNat) (hb' : b.toNat < (secondRange a.toNat).2)
    (hc : isContinuation c.toNat = true) :
    String.utf8EncodeChar (Char.ofNat ((a.toNat - 0xE0) * 4096 + (b.toNat - 0x80) * 64 +
      (c.toNat - 0x80))) = [a, b, c] := by
  obtain ⟨hlow, hhigh, hshort, hsurrogate⟩ :=
    (secondRange_three a.toNat b.toNat ha ha').mp ⟨hb, hb'⟩
  rw [isContinuation_iff] at hc
  generalize hv : (a.toNat - 0xE0) * 4096 + (b.toNat - 0x80) * 64 + (c.toNat - 0x80) = v
  have hvalid : v < 0xD800 ∨ 0xDFFF < v ∧ v < 0x110000 := by omega
  have hvalue : (Char.ofNat v).val.toNat = v := (Char.toNat_ofNat _).trans (if_pos hvalid)
  rw [String.utf8EncodeChar, hvalue, if_neg (by omega), if_neg (by omega), if_pos (by omega),
    show v / 4096 % 16 + 224 = a.toNat by omega, show v / 64 % 64 + 128 = b.toNat by omega,
    show v % 64 + 128 = c.toNat by omega, UInt8.ofNat_toNat, UInt8.ofNat_toNat,
    UInt8.ofNat_toNat]

theorem utf8EncodeChar_four (ha : 0xF0 ≤ a.toNat) (ha' : a.toNat < 0xF5)
    (hb : (secondRange a.toNat).1 ≤ b.toNat) (hb' : b.toNat < (secondRange a.toNat).2)
    (hc : isContinuation c.toNat = true) (hd : isContinuation d.toNat = true) :
    String.utf8EncodeChar (Char.ofNat ((a.toNat - 0xF0) * 262144 + (b.toNat - 0x80) * 4096 +
      (c.toNat - 0x80) * 64 + (d.toNat - 0x80))) = [a, b, c, d] := by
  obtain ⟨hlow, hhigh, hshort, hlarge⟩ :=
    (secondRange_four a.toNat b.toNat ha ha').mp ⟨hb, hb'⟩
  rw [isContinuation_iff] at hc hd
  generalize hv : (a.toNat - 0xF0) * 262144 + (b.toNat - 0x80) * 4096 + (c.toNat - 0x80) * 64 +
    (d.toNat - 0x80) = v
  have hvalid : v < 0xD800 ∨ 0xDFFF < v ∧ v < 0x110000 := by omega
  have hvalue : (Char.ofNat v).val.toNat = v := (Char.toNat_ofNat _).trans (if_pos hvalid)
  rw [String.utf8EncodeChar, hvalue, if_neg (by omega), if_neg (by omega), if_neg (by omega),
    show v / 262144 % 8 + 240 = a.toNat by omega, show v / 4096 % 64 + 128 = b.toNat by omega,
    show v / 64 % 64 + 128 = c.toNat by omega, show v % 64 + 128 = d.toNat by omega,
    UInt8.ofNat_toNat, UInt8.ofNat_toNat, UInt8.ofNat_toNat, UInt8.ofNat_toNat]

/-- Bytes that are read begin with those of a character. -/
theorem exists_char_of_decodeOnto {done text : List Char} {first : UInt8} {rest : List UInt8}
    (h : decodeOnto done (first :: rest) = .ok text) :
    ∃ c rest', first :: rest = String.utf8EncodeChar c ++ rest' ∧
      decodeOnto (c :: done) rest' = .ok text := by
  -- By the length that the first byte announces. Where it announces more bytes than one, the bytes
  -- that follow it are tested in turn, and each failed test ends in an error.
  rw [decodeOnto.eq_def] at h
  simp only at h
  split at h
  · next ha =>
    exact ⟨_, rest, by rw [utf8EncodeChar_one ha]; rfl, h⟩
  · split at h
    · cases h
    · next hsmall hstart =>
      simp only [Bool.or_eq_true, decide_eq_true_eq, not_or, not_lt, not_le] at hstart
      split at h
      · cases h
      · next second rest =>
        split at h
        · cases h
        · next hsecond =>
          simp only [Bool.or_eq_true, decide_eq_true_eq, not_or, not_lt, not_le] at hsecond
          split at h
          · next ha =>
            have hrange : secondRange first.toNat = (0x80, 0xC0) := by
              rw [secondRange, if_neg (by omega), if_neg (by omega), if_neg (by omega),
                if_neg (by omega)]
            rw [hrange] at hsecond
            exact ⟨_, rest, by rw [utf8EncodeChar_two hstart.1 ha hsecond.1 hsecond.2]; rfl, h⟩
          · next ha =>
            split at h
            · cases h
            · next third rest =>
              split at h
              · cases h
              · next hthird =>
                simp only [Bool.not_eq_true, Bool.not_eq_false'] at hthird
                split at h
                · next ha' =>
                  exact ⟨_, rest, by
                    rw [utf8EncodeChar_three (by omega) ha' hsecond.1 hsecond.2 hthird]; rfl, h⟩
                · next ha' =>
                  split at h
                  · cases h
                  · next fourth rest =>
                    split at h
                    · cases h
                    · next hfourth =>
                      simp only [Bool.not_eq_true, Bool.not_eq_false'] at hfourth
                      exact ⟨_, rest, by
                        rw [utf8EncodeChar_four (by omega) hstart.2 hsecond.1 hsecond.2 hthird
                          hfourth]; rfl, h⟩

theorem exists_encode_of_decodeOnto {bytes : List UInt8} {done text : List Char}
    (h : decodeOnto done bytes = .ok text) :
    ∃ read, text = done.reverse ++ read ∧ encode read = bytes := by
  -- Along the characters, of which each has at least one byte.
  induction hlength : bytes.length using Nat.strong_induction_on generalizing bytes done with
  | _ length ih =>
    cases bytes with
    | nil =>
      rw [decodeOnto.eq_def] at h
      cases h
      exact ⟨[], (List.append_nil _).symm, rfl⟩
    | cons first rest =>
      obtain ⟨c, rest', hsplit, h⟩ := exists_char_of_decodeOnto h
      have hshorter : rest'.length < length := by
        have hpositive := List.length_pos_iff.mpr (String.utf8EncodeChar_ne_nil (c := c))
        rw [← hlength, hsplit, List.length_append]
        omega
      obtain ⟨read, rfl, hread⟩ := ih _ hshorter h rfl
      exact ⟨c :: read, by simp, by rw [hsplit, ← hread]; rfl⟩

/-- Bytes are read as a text exactly if they are its bytes. -/
theorem decode_eq_ok_iff {bytes : List UInt8} {text : List Char} :
    decode bytes = .ok text ↔ encode text = bytes := by
  refine ⟨?_, ?_⟩
  · intro h
    obtain ⟨read, rfl, hread⟩ := exists_encode_of_decodeOnto h
    exact hread
  · rintro rfl
    exact decodeOnto_encode [] text

end CallSites.Text.Utf8
