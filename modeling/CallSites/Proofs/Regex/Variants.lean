/-
  CallSites.Proofs.Regex.Variants

  Which differences between patterns make none between the names that they match: whether their
  repetitions ask for many copies or few, and the order of their alternatives.
-/
import CallSites.Proofs.Regex.Grammar
import CallSites.Proofs.Regex.Matching
import CallSites.Regex.Pattern

namespace CallSites.Regex

variable {rank : Rank} {flags middle after : Flags} {regex : Regex} {left right : List Piece}

/-! ## Patterns match by their language -/

/-- The grammar has no repetition that asks for more copies than it allows. -/
theorem Denotes.orderedCounts (h : Denotes rank flags left after regex) : regex.OrderedCounts := by
  induction h with
  | @single flags piece regex hpiece =>
    cases piece <;> cases hpiece <;> trivial
  | group _ ih => exact ih
  | times _ _ hmost ih => exact ⟨ih, hmost⟩
  | nothing => trivial
  | mark _ _ ih => exact ih
  | part _ _ ihf ihr => exact ⟨ihf, ihr⟩
  | last _ ih => exact ih
  | bar _ _ ihf ihr => exact ⟨ihf, ihr⟩

/-- A pattern matches exactly the names in its language. -/
theorem Pattern.isMatch_iff (pattern : Pattern) (name : String) :
    pattern.isMatch name = true ↔ name ∈ patternLanguage pattern.text := by
  obtain ⟨after, hdenotes⟩ := exists_denotes_of_parse pattern.parse_text
  rw [patternLanguage_eq pattern.parse_text]
  exact Regex.isMatch_iff hdenotes.orderedCounts name

theorem Pattern.isMatch_congr {pattern other : Pattern}
    (h : pattern.regex.language = other.regex.language) (name : String) :
    pattern.isMatch name = other.isMatch name := by
  rw [Bool.eq_iff_iff, pattern.isMatch_iff, other.isMatch_iff,
    patternLanguage_eq pattern.parse_text, patternLanguage_eq other.parse_text, h]

/-! ## Alternatives -/

/-- A bar between two groups of alternatives makes one group of them all. -/
theorem Denotes.exists_bar {first second : Regex}
    (hleft : Denotes .alternatives flags left middle first)
    (hright : Denotes .alternatives middle right after second) :
    ∃ whole, Denotes .alternatives flags (left ++ .bar :: right) after whole ∧
      Reordered whole (.either first second) := by
  generalize hrank : Rank.alternatives = rank at hleft
  induction hleft with
  | last hlast => exact ⟨_, .bar hlast hright, .refl _⟩
  | @bar _ _ _ _ _ alternative _ hfirst _ _ ih =>
    obtain ⟨rest, hrest, horder⟩ := ih hright rfl
    refine ⟨.either alternative rest, ?_, ?_⟩
    · rw [List.append_assoc, List.cons_append]
      exact .bar hfirst hrest
    · exact .trans (.either (.refl _) horder) (.unrotate _ _ _)
  | _ => cases hrank

/-- A pattern with a bar outside of all groups matches the names that one side matches. -/
theorem Pattern.isMatch_bar_iff {pattern : Pattern} {first second : Regex}
    (hpieces : (pieces pattern.text.toList).1 = left ++ .bar :: right)
    (hleft : Denotes .alternatives {} left middle first)
    (hright : Denotes .alternatives middle right after second) (name : String) :
    pattern.isMatch name = true ↔ name ∈ first.language ∨ name ∈ second.language := by
  obtain ⟨whole, hwhole, horder⟩ := hleft.exists_bar hright
  rw [← hpieces] at hwhole
  rw [pattern.isMatch_iff, patternLanguage_eq pattern.parse_text,
    ← eq_of_denotes_of_parse pattern.parse_text hwhole, horder.language_eq, mem_language_either]

/-! ## Many copies or few -/

/-- Pieces that differ at most in what repetitions prefer. -/
inductive Alike : Piece → Piece → Prop
  | refl (piece : Piece) : Alike piece piece
  | times (least : Nat) (most : Option Nat) (operator other : List Char) :
    Alike (.times least most operator) (.times least most other)
  | openGroup {changes others : List FlagChange} :
    changes.filter (·.1 ≠ .lazy) = others.filter (·.1 ≠ .lazy) →
      Alike (.openGroup changes) (.openGroup others)
  | setFlags {changes others : List FlagChange} :
    changes.filter (·.1 ≠ .lazy) = others.filter (·.1 ≠ .lazy) →
      Alike (.setFlags changes) (.setFlags others)

/-- What repetitions prefer is none of the flags that pieces depend on. -/
theorem foldl_change_filter (changes : List FlagChange) (flags : Flags) :
    (changes.filter (·.1 ≠ .lazy)).foldl Flags.change flags =
      changes.foldl Flags.change flags := by
  induction changes generalizing flags with
  | nil => rfl
  | cons change changes ih =>
    obtain ⟨flag, on⟩ := change
    cases flag <;> exact ih _

theorem foldl_change_congr {changes others : List FlagChange}
    (h : changes.filter (·.1 ≠ .lazy) = others.filter (·.1 ≠ .lazy)) (flags : Flags) :
    changes.foldl Flags.change flags = others.foldl Flags.change flags := by
  rw [← foldl_change_filter, h, foldl_change_filter]

theorem Alike.toRegex?_eq {piece other : Piece} (h : Alike piece other) (flags : Flags) :
    piece.toRegex? flags = other.toRegex? flags := by
  cases h <;> rfl

theorem exists_append_of_forall₂ {α β : Type} {R : α → β → Prop} {first second : List α}
    {items : List β} (h : List.Forall₂ R (first ++ second) items) :
    ∃ front back, items = front ++ back ∧ List.Forall₂ R first front ∧
      List.Forall₂ R second back := by
  refine ⟨items.take first.length, items.drop first.length, (List.take_append_drop _ _).symm,
    ?_, ?_⟩
  · simpa using List.forall₂_take first.length h
  · simpa using List.forall₂_drop first.length h

theorem Marks.congr {others : List Piece} (h : Marks flags left after)
    (hothers : List.Forall₂ Alike left others) : Marks flags others after := by
  induction h generalizing others with
  | nil flags =>
    cases hothers
    exact .nil _
  | setFlags _ ih =>
    cases hothers with
    | cons halike hrest =>
      cases halike with
      | refl => exact .setFlags (ih hrest)
      | setFlags hchanges =>
        refine .setFlags ?_
        rw [← foldl_change_congr hchanges]
        exact ih hrest
  | quote _ ih =>
    cases hothers with
    | cons halike hrest =>
      cases halike
      exact .quote (ih hrest)

theorem exists_of_forall₂_single {piece : Piece} {others : List Piece}
    (h : List.Forall₂ Alike [piece] others) : ∃ other, others = [other] ∧ Alike piece other := by
  obtain ⟨other, rest, halike, hrest, rfl⟩ := List.forall₂_cons_left_iff.mp h
  cases hrest
  exact ⟨other, rfl, halike⟩

/-- Pieces that are alike denote the same expression. -/
theorem Denotes.congr {others : List Piece} (h : Denotes rank flags left after regex)
    (hothers : List.Forall₂ Alike left others) : Denotes rank flags others after regex := by
  induction h generalizing others with
  | single hpiece =>
    obtain ⟨other, rfl, halike⟩ := exists_of_forall₂_single hothers
    exact .single (halike.toRegex?_eq _ ▸ hpiece)
  | group _ ih =>
    -- A group keeps its brackets, and its flags are the ones that pieces depend on.
    obtain ⟨opening, rest, hopening, hrest, rfl⟩ := List.forall₂_cons_left_iff.mp hothers
    obtain ⟨body, closing, rfl, hbody, hclosing⟩ := exists_append_of_forall₂ hrest
    obtain ⟨_, rfl, hclose⟩ := exists_of_forall₂_single hclosing
    cases hclose
    cases hopening with
    | refl => exact .group (ih hbody)
    | openGroup hchanges =>
      have hopened := ih hbody
      rw [foldl_change_congr hchanges] at hopened
      exact .group hopened
  | times _ hmarks hmost ih =>
    obtain ⟨front, last, rfl, hfront, hlast⟩ := exists_append_of_forall₂ hothers
    obtain ⟨body, marks, rfl, hbody, hmarks'⟩ := exists_append_of_forall₂ hfront
    obtain ⟨_, rfl, halike⟩ := exists_of_forall₂_single hlast
    cases halike with
    -- What a repetition prefers stands in its operator, which the expression does not keep.
    | refl | times => exact .times (ih hbody) (hmarks.congr hmarks') hmost
  | nothing =>
    cases hothers
    exact .nothing _
  | mark hmark _ ih =>
    obtain ⟨other, rest, halike, hrest, rfl⟩ := List.forall₂_cons_left_iff.mp hothers
    exact .mark (hmark.congr (.cons halike .nil)) (ih hrest)
  | part _ _ ihf ihr =>
    obtain ⟨front, back, rfl, hfront, hback⟩ := exists_append_of_forall₂ hothers
    exact .part (ihf hfront) (ihr hback)
  | last _ ih => exact .last (ih hothers)
  | bar _ _ ihf ihr =>
    obtain ⟨front, back, rfl, hfront, hback⟩ := exists_append_of_forall₂ hothers
    obtain ⟨separator, rest, hseparator, hrest, rfl⟩ := List.forall₂_cons_left_iff.mp hback
    cases hseparator
    exact .bar (ihf hfront) (ihr hrest)

/-- Patterns of which all pieces are alike match the same names. -/
theorem Pattern.isMatch_eq_of_alike {pattern other : Pattern}
    (h : List.Forall₂ Alike (pieces pattern.text.toList).1 (pieces other.text.toList).1)
    (name : String) : pattern.isMatch name = other.isMatch name := by
  obtain ⟨after, hdenotes⟩ := exists_denotes_of_parse pattern.parse_text
  have hregex := eq_of_denotes_of_parse other.parse_text (hdenotes.congr h)
  exact Pattern.isMatch_congr (congrArg language hregex) name

end CallSites.Regex
