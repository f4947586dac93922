/-
  CallSites.Proofs.Regex.Piece

  What the pieces of a pattern match that stand for something by themselves: with some flags in
  force, the expression of a piece matches what the piece says.
-/
import CallSites.Proofs.Regex.Language
import CallSites.Regex.Parse

namespace CallSites.Regex

/-! ## Classes -/

/-- Whether a code point belongs to an item of a class. Letters that differ only in case count
    before the complement is taken. -/
def ClassItem.Has (caseless : Bool) (item : ClassItem) (code : Nat) : Prop :=
  let listed := if caseless then ∃ member ∈ Unicode.caseOrbit code, item.set.Has member
    else item.set.Has code
  if item.negated then ¬ listed else listed

/-- Whether a code point belongs to a class. -/
def ClassSet.Has (caseless : Bool) (set : ClassSet) (code : Nat) : Prop :=
  let listed := ∃ item ∈ set.items, item.Has caseless code
  if set.negated then ¬ listed else listed

theorem ClassItem.has_toCharSet {caseless : Bool} {item : ClassItem} {code : Nat} :
    (item.toCharSet caseless).Has code ↔ item.Has caseless code := by
  cases caseless <;> cases hnegated : item.negated <;>
    simp [ClassItem.toCharSet, ClassItem.Has, hnegated, CharSet.Has]

theorem CharSet.has_single {member code : Nat} :
    (CharSet.single member).Has code ↔ code = member := by
  rw [← CharSet.contains_iff, CharSet.contains_single]

theorem CharSet.has_unions {sets : List CharSet} {code : Nat} :
    (CharSet.unions sets).Has code ↔ ∃ set ∈ sets, set.Has code := by
  simp only [← CharSet.contains_iff, CharSet.contains_unions, List.any_eq_true]

theorem ClassSet.has_toCharSet {caseless : Bool} {set : ClassSet} {code : Nat} :
    (set.toCharSet caseless).Has code ↔ set.Has caseless code := by
  have hlisted : (CharSet.unions (set.items.map (ClassItem.toCharSet caseless))).Has code ↔
      ∃ item ∈ set.items, item.Has caseless code := by
    simp [CharSet.has_unions, ClassItem.has_toCharSet]
  cases hnegated : set.negated <;>
    simp [ClassSet.toCharSet, ClassSet.Has, hnegated, hlisted, CharSet.Has]

/-! ## Single pieces -/

/-- What a piece by itself matches with some flags in force. -/
def Piece.MatchesWith (flags : Flags) : Piece → StretchCondition
  | .literal code => fun _ text _ => ∃ c : Char, text = String.utf8EncodeChar c ∧
    (c.toNat = code ∨ (flags.caseless ∧ code ∈ Unicode.caseOrbit c.toNat))
  | .set bracket => fun _ text _ => ∃ c : Char, text = String.utf8EncodeChar c ∧
    bracket.Has flags.caseless c.toNat
  | .anyChar => fun _ text _ => ∃ c : Char, text = String.utf8EncodeChar c ∧
    (flags.dotAll ∨ c ≠ '\n')
  | .anyByte => fun _ text _ => text.length = 1
  | .lineStart => fun front text _ => text = [] ∧
    (front = [] ∨ (flags.lines ∧ front.getLast? = some 0xA))
  | .lineEnd => fun _ text back => text = [] ∧
    (back = [] ∨ (flags.lines ∧ back.head? = some 0xA))
  | .assertion condition => fun front text back => text = [] ∧ condition.HoldsBetween front back
  | _ => fun _ _ _ => False

/-- The expression of a piece matches what the piece matches with the flags in force. -/
theorem matches_of_toRegex? {flags : Flags} {piece : Piece} {regex : Regex}
    (h : piece.toRegex? flags = some regex) : regex.Matches = piece.MatchesWith flags := by
  funext front text back
  cases piece with
  | literal code =>
    cases h
    refine propext (exists_congr fun c => and_comm.trans (and_congr_right fun _ => ?_))
    cases flags.caseless with
    | false => simp [CharSet.has_single]
    | true =>
      -- A letter is in its own orbit, so without regard to case it still matches itself.
      have hself : c.toNat ∈ Unicode.caseOrbit c.toNat := List.mem_cons_self
      have hfolded : (CharSet.folded (.single code)).Has c.toNat ↔
          code ∈ Unicode.caseOrbit c.toNat := by
        simp [CharSet.Has, CharSet.has_single]
      rw [if_pos rfl, hfolded]
      refine ⟨fun hmem => .inr ⟨rfl, hmem⟩, ?_⟩
      rintro (rfl | ⟨-, hmem⟩)
      · exact hself
      · exact hmem
  | set bracket =>
    cases h
    simp [Matches, Piece.MatchesWith, ClassSet.has_toCharSet, and_comm]
  | anyChar =>
    cases h
    refine propext (exists_congr fun c => and_comm.trans (and_congr_right fun _ => ?_))
    have hbreak : c.toNat = 0xA ↔ c = '\n' := Char.toNat_inj (d := '\n')
    cases flags.dotAll with
    | false => simp [CharSet.Has, CharSet.has_single, hbreak]
    | true => simp [CharSet.Has, CharSet.all]
  | anyByte =>
    cases h
    simp [Matches, Piece.MatchesWith, List.length_eq_one_iff]
  | lineStart =>
    cases h
    cases hlines : flags.lines <;> simp [Matches, Piece.MatchesWith, hlines, Assertion.HoldsBetween]
  | lineEnd =>
    cases h
    cases hlines : flags.lines <;> simp [Matches, Piece.MatchesWith, hlines, Assertion.HoldsBetween]
  | assertion condition =>
    cases h
    rfl
  | _ => cases h

end CallSites.Regex
