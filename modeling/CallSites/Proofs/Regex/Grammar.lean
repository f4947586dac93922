/-
  CallSites.Proofs.Regex.Grammar

  What a pattern denotes, by a grammar over its pieces. The flags in force are handed on from left
  to right and come back at the end of a group. The reader of patterns keeps a stack of open groups
  instead; what it builds is what the grammar says, and nothing else.
-/
import CallSites.Proofs.Outcome
import CallSites.Proofs.Regex.Language
import CallSites.Proofs.Regex.Lexeme
import CallSites.Regex.Parse

namespace CallSites.Regex

/-! ## The grammar -/

/-- Pieces that match nothing by themselves, and the flags after them. -/
inductive Marks : Flags → List Piece → Flags → Prop
  | nil (flags : Flags) : Marks flags [] flags
  | setFlags {flags after : Flags} {changes : List FlagChange} {rest : List Piece} :
    Marks (changes.foldl Flags.change flags) rest after →
      Marks flags (.setFlags changes :: rest) after
  | quote {flags after : Flags} {rest : List Piece} :
    Marks flags rest after → Marks flags (.quote :: rest) after

/-- The levels of the grammar, from tight to loose. -/
inductive Rank where
  | item
  | sequence
  | alternatives
  deriving DecidableEq, Repr

/-- With some flags in force, pieces denote an expression and leave other flags in force. -/
inductive Denotes : Rank → Flags → List Piece → Flags → Regex → Prop
  /-- A piece that stands for an expression by itself. -/
  | single {flags : Flags} {piece : Piece} {regex : Regex} :
    piece.toRegex? flags = some regex → Denotes .item flags [piece] flags regex
  /-- A group. Its flags end with it. -/
  | group {flags after : Flags} {changes : List FlagChange} {body : List Piece} {regex : Regex} :
    Denotes .alternatives (changes.foldl Flags.change flags) body after regex →
      Denotes .item flags (.openGroup changes :: (body ++ [.closeGroup])) flags regex
  /-- A repetition of the item before it. -/
  | times {flags middle after : Flags} {body marks : List Piece} {regex : Regex} {least : Nat}
    {most : Option Nat} {operator : List Char} :
    Denotes .item flags body middle regex → Marks middle marks after →
      (∀ bound ∈ most, least ≤ bound) →
      Denotes .item flags (body ++ marks ++ [.times least most operator]) after
        (.times regex least most)
  | nothing (flags : Flags) : Denotes .sequence flags [] flags .empty
  | mark {flags middle after : Flags} {piece : Piece} {rest : List Piece} {regex : Regex} :
    Marks flags [piece] middle → Denotes .sequence middle rest after regex →
      Denotes .sequence flags (piece :: rest) after regex
  | part {flags middle after : Flags} {first rest : List Piece} {left right : Regex} :
    Denotes .item flags first middle left → Denotes .sequence middle rest after right →
      Denotes .sequence flags (first ++ rest) after (.concat left right)
  | last {flags after : Flags} {pieces : List Piece} {regex : Regex} :
    Denotes .sequence flags pieces after regex → Denotes .alternatives flags pieces after regex
  /-- Flags that are set in one alternative hold in the next. -/
  | bar {flags middle after : Flags} {first rest : List Piece} {left right : Regex} :
    Denotes .sequence flags first middle left → Denotes .alternatives middle rest after right →
      Denotes .alternatives flags (first ++ .bar :: rest) after (.either left right)

variable {rank : Rank} {flags middle after : Flags} {regex : Regex} {text : List Char}
  {pieces : List Piece} {reading next : Reading}

/-! ## Single steps of the reader -/

theorem of_addTimes_eq_ok {least : Nat} {most : Option Nat} {operator : List Char}
    (h : reading.addTimes least most operator = .ok next) :
    (∀ bound ∈ most, least ≤ bound) ∧ ∃ body parts, reading.level.parts = body :: parts ∧
      next = { reading with
        level := { reading.level with parts := .times body least most :: parts }
        lastOperator := operator } := by
  unfold Reading.addTimes at h
  split at h
  · cases h
  · split at h
    · cases h
    · next hsize =>
      split at h
      · cases h
      · next body parts hparts =>
        simp only at h
        split at h
        · cases h
        · refine ⟨?_, body, parts, hparts, (Except.ok.inj h).symm⟩
          rintro bound rfl
          simp at hsize
          omega

theorem add_of_toRegex? {piece : Piece} (h : piece.toRegex? reading.flags = some regex) :
    reading.add text piece =
      .ok { reading with level := reading.level.push regex, lastOperator := [] } := by
  cases piece <;> simp_all [Reading.add, Piece.toRegex?]

theorem foldlM_marks {marks : List Piece} (h : Marks flags marks after)
    (hflags : reading.flags = flags) :
    ∃ operator, marks.foldlM (Reading.add text) reading =
      .ok { reading with flags := after, lastOperator := operator } := by
  induction h generalizing reading with
  | nil flags => exact ⟨reading.lastOperator, by rw [← hflags]; rfl⟩
  | @setFlags _ _ changes _ _ ih =>
    subst hflags
    obtain ⟨operator, hrest⟩ :=
      @ih { reading with flags := changes.foldl Flags.change reading.flags, lastOperator := [] } rfl
    exact ⟨operator, hrest⟩
  | quote _ ih =>
    obtain ⟨operator, hrest⟩ := @ih { reading with lastOperator := [] } hflags
    exact ⟨operator, hrest⟩

theorem foldlM_single (piece : Piece) :
    [piece].foldlM (Reading.add text) reading = reading.add text piece := by
  rw [List.foldlM_cons, bind_congr fun _ => List.foldlM_nil, bind_pure]

/-! ## The reader keeps to the grammar -/

/-- The last alternative of a group, with an expression after what was read of it. -/
def Level.lastWith (level : Level) (rest : Regex) : Regex :=
  level.parts.foldl (fun rest part => .concat part rest) rest

/-- A group whose last alternative is the expression. -/
def Level.groupWith (level : Level) (last : Regex) : Regex :=
  level.alternatives.foldl (fun right left => .either left right) last

/-- How reading pieces that denote an expression changes the state of reading. -/
def Extends (reading : Reading) (after : Flags) (regex : Regex) (next : Reading) : Rank → Prop
  | .item => next.flags = after ∧ next.outer = reading.outer ∧
    next.level = reading.level.push regex
  | .sequence => next.flags = after ∧ next.outer = reading.outer ∧
    next.level.alternatives = reading.level.alternatives ∧
    next.level.lastAlternative = reading.level.lastWith regex
  | .alternatives => next.flags = after ∧ next.outer = reading.outer ∧
    (reading.level.parts = [] → next.level.toRegex = reading.level.groupWith regex)

/-- If pieces denote an expression, the reader builds that one or fails. -/
theorem extends_of_denotes (h : Denotes rank flags pieces after regex)
    (hflags : reading.flags = flags)
    (hread : pieces.foldlM (Reading.add text) reading = .ok next) :
    Extends reading after regex next rank := by
  induction h generalizing reading next with
  | single hpiece =>
    subst hflags
    rw [List.foldlM_cons, add_of_toRegex? hpiece, ok_bind] at hread
    cases hread
    exact ⟨rfl, rfl, rfl⟩
  | @group _ _ changes _ _ _ ih =>
    subst hflags
    -- The group is read from a fresh level, and the one around it waits on the stack.
    rw [List.foldlM_cons] at hread
    obtain ⟨opened, hopened, hread⟩ := bind_eq_ok_iff.mp hread
    cases hopened
    rw [List.foldlM_append] at hread
    obtain ⟨closing, hbody, hclose⟩ := bind_eq_ok_iff.mp hread
    obtain ⟨-, houter, hregex⟩ := ih rfl hbody
    rw [foldlM_single, Reading.add, houter] at hclose
    cases hclose
    refine ⟨rfl, rfl, ?_⟩
    rw [hregex rfl]
    rfl
  | times _ hmarks hmost ih =>
    rw [List.foldlM_append, List.foldlM_append] at hread
    obtain ⟨marked, hread, htimes⟩ := bind_eq_ok_iff.mp hread
    obtain ⟨item, hbody, hskip⟩ := bind_eq_ok_iff.mp hread
    obtain ⟨hmiddle, houter, hlevel⟩ := ih hflags hbody
    obtain ⟨operator, hmarked⟩ := foldlM_marks hmarks hmiddle
    rw [hmarked] at hskip
    cases hskip
    rw [foldlM_single] at htimes
    obtain ⟨-, body, parts, hparts, rfl⟩ := of_addTimes_eq_ok htimes
    rw [hlevel] at hparts
    cases hparts
    refine ⟨rfl, houter, ?_⟩
    rw [hlevel]
    rfl
  | nothing flags =>
    cases hread
    exact ⟨hflags, rfl, rfl, rfl⟩
  | mark hmark _ ih =>
    obtain ⟨operator, hmarked⟩ := foldlM_marks hmark hflags
    rw [← List.singleton_append, List.foldlM_append, hmarked, ok_bind] at hread
    have hrest := ih rfl hread
    exact hrest
  | part _ _ ihf ihr =>
    rw [List.foldlM_append] at hread
    obtain ⟨mid, hfirst, hrest⟩ := bind_eq_ok_iff.mp hread
    obtain ⟨hmid, houter, hlevel⟩ := ihf hflags hfirst
    obtain ⟨hafter, houter', halternatives, hlast⟩ := ihr hmid hrest
    refine ⟨hafter, houter'.trans houter, ?_, ?_⟩
    · rw [halternatives, hlevel, Level.push]
    · rw [hlast, hlevel, Level.push]
      rfl
  | last _ ih =>
    obtain ⟨hafter, houter, halternatives, hlast⟩ := ih hflags hread
    refine ⟨hafter, houter, fun hparts => ?_⟩
    rw [Level.toRegex, hlast, halternatives, Level.lastWith, hparts]
    rfl
  | bar _ _ ihf ihr =>
    rw [List.foldlM_append] at hread
    obtain ⟨alternative, hfirst, hread⟩ := bind_eq_ok_iff.mp hread
    obtain ⟨hmiddle, houter, halternatives, hlast⟩ := ihf hflags hfirst
    rw [List.foldlM_cons] at hread
    obtain ⟨barred, hbar, hrest⟩ := bind_eq_ok_iff.mp hread
    have hextends := ihr (by cases hbar; exact hmiddle) hrest
    cases hbar
    obtain ⟨hafter, houter', hregex⟩ := hextends
    refine ⟨hafter, houter'.trans houter, fun hparts => ?_⟩
    rw [hregex rfl, hlast, Level.lastWith, hparts, halternatives]
    rfl

/-! ## Every state of reading follows the grammar -/

/-- What was read of one group, from the flags at its start on. -/
inductive LevelReads (flags : Flags) : List Piece → Flags → Level → Prop
  | start : LevelReads flags [] flags {}
  | item {middle after : Flags} {pieces more : List Piece} {level : Level} {regex : Regex} :
    LevelReads flags pieces middle level → Denotes .item middle more after regex →
      LevelReads flags (pieces ++ more) after (level.push regex)
  | mark {middle after : Flags} {pieces : List Piece} {piece : Piece} {level : Level} :
    LevelReads flags pieces middle level → Marks middle [piece] after →
      LevelReads flags (pieces ++ [piece]) after level
  | bar {after : Flags} {pieces : List Piece} {level : Level} :
    LevelReads flags pieces after level →
      LevelReads flags (pieces ++ [.bar]) after
        ⟨level.lastAlternative :: level.alternatives, []⟩

variable {level inner : Level} {outer : List (Flags × Level)} {more : List Piece}

/-- Whatever completes the last alternative, or that and those to come, completes the group. -/
theorem LevelReads.complete (h : LevelReads flags pieces middle level) :
    (∀ {more after last}, Denotes .sequence middle more after last →
      Denotes .alternatives flags (pieces ++ more) after (level.groupWith (level.lastWith last))) ∧
    (∀ {more next rest after last others}, Denotes .sequence middle more next last →
      Denotes .alternatives next rest after others →
      Denotes .alternatives flags (pieces ++ (more ++ .bar :: rest)) after
        (level.groupWith (.either (level.lastWith last) others))) := by
  induction h with
  | start => exact ⟨.last, .bar⟩
  | item _ hitem ih =>
    refine ⟨fun hlast => ?_, fun hlast hothers => ?_⟩
    · rw [List.append_assoc]
      exact ih.1 (.part hitem hlast)
    · have hgroup := ih.2 (.part hitem hlast) hothers
      rw [List.append_assoc] at hgroup ⊢
      exact hgroup
  | mark _ hmark ih =>
    refine ⟨fun hlast => ?_, fun hlast hothers => ?_⟩
    · rw [List.append_assoc]
      exact ih.1 (.mark hmark hlast)
    · rw [List.append_assoc]
      exact ih.2 (.mark hmark hlast) hothers
  | bar _ ih =>
    refine ⟨fun hlast => ?_, fun hlast hothers => ?_⟩
    · rw [List.append_assoc]
      exact ih.2 (.nothing _) (.last hlast)
    · rw [List.append_assoc]
      exact ih.2 (.nothing _) (.bar hlast hothers)

theorem LevelReads.denotes (h : LevelReads flags pieces after level) :
    Denotes .alternatives flags pieces after level.toRegex := by
  have hdenotes := h.complete.1 (.nothing after)
  rwa [List.append_nil] at hdenotes

theorem Marks.append {marks : List Piece} (h : Marks flags pieces middle)
    (h' : Marks middle marks after) : Marks flags (pieces ++ marks) after := by
  induction h with
  | nil flags => exact h'
  | setFlags _ ih => exact .setFlags (ih h')
  | quote _ ih => exact .quote (ih h')

/-- A repetition belongs to the last part, whatever marks stand between them. -/
theorem LevelReads.times {body : Regex} {parts : List Regex} {marks : List Piece} {least : Nat}
    {most : Option Nat} (h : LevelReads flags pieces middle level)
    (hparts : level.parts = body :: parts) (hmarks : Marks middle marks after)
    (hmost : ∀ bound ∈ most, least ≤ bound) (operator : List Char) :
    LevelReads flags (pieces ++ (marks ++ [.times least most operator])) after
      { level with parts := .times body least most :: parts } := by
  induction h generalizing marks with
  | start => cases hparts
  | item hlevel hitem _ =>
    obtain ⟨rfl, rfl⟩ := List.cons.inj hparts
    rw [List.append_assoc, ← List.append_assoc _ marks]
    exact .item hlevel (.times hitem hmarks hmost)
  | mark _ hmark ih =>
    rw [List.append_assoc, ← List.append_assoc _ marks]
    exact ih hparts (hmark.append hmarks)
  | bar _ _ => cases hparts

/-- What was read of the groups that are open, the innermost one last. -/
inductive StackReads : List Piece → Flags → Level → List (Flags × Level) → Prop
  | outermost {flags : Flags} {pieces : List Piece} {level : Level} :
    LevelReads {} pieces flags level → StackReads pieces flags level []
  | inside {flags after : Flags} {before pieces : List Piece} {changes : List FlagChange}
    {level inner : Level} {outer : List (Flags × Level)} :
    StackReads before flags level outer →
      LevelReads (changes.foldl Flags.change flags) pieces after inner →
      StackReads (before ++ .openGroup changes :: pieces) after inner ((flags, level) :: outer)

/-- Reading on in the innermost group leaves those around it alone. -/
theorem StackReads.extend (h : StackReads pieces flags level outer)
    (hlevel : ∀ {start pieces}, LevelReads start pieces flags level →
      LevelReads start (pieces ++ more) after inner) :
    StackReads (pieces ++ more) after inner outer := by
  cases h with
  | outermost hread => exact .outermost (hlevel hread)
  | inside hstack hread =>
    rw [List.append_assoc, List.cons_append]
    exact .inside hstack (hlevel hread)

/-- Once every group is closed, all that was read makes up an expression. -/
theorem StackReads.denotes (h : StackReads pieces flags level []) :
    Denotes .alternatives {} pieces flags level.toRegex := by
  cases h with
  | outermost hread => exact hread.denotes

/-- Every piece that the reader accepts keeps the state to the grammar. -/
theorem StackReads.add {piece : Piece}
    (h : StackReads pieces reading.flags reading.level reading.outer)
    (hadd : reading.add text piece = .ok next) :
    StackReads (pieces ++ [piece]) next.flags next.level next.outer := by
  -- A piece with an expression of its own is a part. Each of the others changes the stack.
  cases hsingle : piece.toRegex? reading.flags with
  | some regex =>
    rw [add_of_toRegex? hsingle] at hadd
    cases hadd
    exact h.extend fun hread => .item hread (.single hsingle)
  | none =>
    cases piece with
    | times least most operator =>
      obtain ⟨hmost, body, parts, hparts, rfl⟩ := of_addTimes_eq_ok hadd
      exact h.extend fun hread => hread.times hparts (.nil _) hmost operator
    | openGroup changes =>
      cases hadd
      exact .inside h .start
    | setFlags changes =>
      cases hadd
      exact h.extend fun hread => .mark hread (.setFlags (.nil _))
    | bar =>
      cases hadd
      exact h.extend .bar
    | closeGroup =>
      rw [Reading.add] at hadd
      cases houter : reading.outer with
      | nil =>
        rw [houter] at hadd
        cases hadd
      | cons around outer =>
        obtain ⟨flags, level⟩ := around
        rw [houter] at hadd h
        cases hadd
        cases h with
        | inside hstack hread =>
          rw [List.append_assoc, List.cons_append]
          exact hstack.extend fun hlevel => .item hlevel (.group hread.denotes)
    | quote =>
      cases hadd
      exact h.extend fun hread => .mark hread (.quote (.nil _))
    | _ => simp [Piece.toRegex?] at hsingle

theorem StackReads.foldlM (h : StackReads pieces reading.flags reading.level reading.outer)
    (hread : more.foldlM (Reading.add text) reading = .ok next) :
    StackReads (pieces ++ more) next.flags next.level next.outer := by
  induction more generalizing pieces reading with
  | nil =>
    cases hread
    rwa [List.append_nil]
  | cons piece more ih =>
    rw [List.foldlM_cons] at hread
    obtain ⟨middle, hadd, hrest⟩ := bind_eq_ok_iff.mp hread
    rw [← List.singleton_append, ← List.append_assoc]
    exact ih (h.add hadd) hrest

/-! ## Whole patterns -/

/-- The language of a pattern: the names that what its pieces denote matches as a whole. -/
def patternLanguage (pattern : String) : Set String :=
  {name | ∃ after regex,
    Denotes .alternatives {} (Regex.pieces pattern.toList).1 after regex ∧ name ∈ regex.language}

variable {pattern : String}

theorem parse_eq_ok_iff :
    parse pattern = .ok regex ↔ (Regex.pieces pattern.toList).2 = none ∧ ∃ reading : Reading,
      (Regex.pieces pattern.toList).1.foldlM (Reading.add pattern.toList) {} = .ok reading ∧
        reading.outer = [] ∧ reading.level.toRegex = regex := by
  rw [parse]
  cases hfold : (Regex.pieces pattern.toList).1.foldlM (Reading.add pattern.toList) {} with
  | error error => simp [hfold]
  | ok reading =>
    cases herror : (Regex.pieces pattern.toList).2 with
    | some error => simp [hfold, herror]
    | none =>
      cases houter : reading.outer <;> simp [hfold, herror, Reading.finish, houter]

/-- A pattern that is read falls into lexemes. -/
theorem lexes_of_parse (h : parse pattern = .ok regex) :
    Lexes pattern.toList [] (Regex.pieces pattern.toList).1 :=
  pieces_eq_iff_lexes.mp (Prod.ext rfl (parse_eq_ok_iff.mp h).1)

/-- A pattern that is read denotes the expression that it is read as. -/
theorem exists_denotes_of_parse (h : parse pattern = .ok regex) :
    ∃ after, Denotes .alternatives {} (Regex.pieces pattern.toList).1 after regex := by
  obtain ⟨-, reading, hread, houter, rfl⟩ := parse_eq_ok_iff.mp h
  have hempty : StackReads [] ({} : Reading).flags ({} : Reading).level ({} : Reading).outer :=
    .outermost .start
  have hstack := hempty.foldlM hread
  rw [houter] at hstack
  exact ⟨_, hstack.denotes⟩

/-- It denotes no other expression. -/
theorem eq_of_denotes_of_parse {other : Regex} (h : parse pattern = .ok regex)
    (hother : Denotes .alternatives {} (Regex.pieces pattern.toList).1 after other) :
    other = regex := by
  obtain ⟨-, reading, hread, -, rfl⟩ := parse_eq_ok_iff.mp h
  obtain ⟨-, -, hregex⟩ := extends_of_denotes hother rfl hread
  exact (hregex rfl).symm

/-- The language of a pattern is that of the expression it is read as. -/
theorem patternLanguage_eq (h : parse pattern = .ok regex) :
    patternLanguage pattern = regex.language := by
  obtain ⟨after, hdenotes⟩ := exists_denotes_of_parse h
  refine Set.ext fun name => ⟨?_, fun hname => ⟨after, regex, hdenotes, hname⟩⟩
  rintro ⟨_, other, hother, hname⟩
  exact eq_of_denotes_of_parse h hother ▸ hname

end CallSites.Regex
