import LogViewer.Proofs.LogLine.Pieces

/-!
# The shapes of a line

What stands behind a tag can stand at several places of a line, and the readers cut at the first of
them. A line that is read consists of its pieces up to that place. The tag with date and time ends
before the white space in front of the colon, which is also the shortest tag that white space and a
colon can follow.

## Main definitions

- `FirstCut`: the first place where something stands
- `ColonHere`, `BracketHere`: what stands behind a tag
- `HasBracket`: a process number in parentheses
- `TimedHead`: the pieces of a line with date and time, up to its level
- `Tagged`: a text with some place where its tag can end

## Main statements

- `FirstCut.of_not_isInfix`, `FirstCut.of_not_hasBracket`: a tag without its separator
- `cutAtColon_eq_some_iff`, `cutAtBracket_eq_some_iff`: the readers cut at the first place
- `readTimed_eq_some_iff`, `readBrief_eq_some_iff`: what is read of a line of a shape
- `firstCut_of_shortest`, `FirstCut.not_colonBehindBlanks`: the tag before the first colon is the
  shortest
- `tagged_iff`: if any tag is possible, the one before the first colon is
-/

namespace LogViewer.LogLine

open LogViewer.Text

/-! ## §1 The first place -/

/-- A text is cut at the first place, some distance from its front or further on, where something
stands. -/
structure FirstCut (stands : List CodePoint → Prop) (least : Nat)
    (s before after : List CodePoint) : Prop where
  eq : s = before ++ after
  least_le : least ≤ before.length
  here : stands after
  first : ∀ m < before.length, least ≤ m → ¬ stands (s.drop m)

section FirstCut

variable {stands stands' : List CodePoint → Prop} {least : Nat} {s before after : List CodePoint}

/-- If something stands anywhere, there is a first place. -/
theorem exists_firstCut (stands : List CodePoint → Prop) (hs : s = before ++ after)
    (hleast : least ≤ before.length) (hhere : stands after) :
    ∃ before after, FirstCut stands least s before after := by
  classical
  have hex : ∃ m, least ≤ m ∧ stands (s.drop m) :=
    ⟨before.length, hleast, by rwa [hs, List.drop_left]⟩
  obtain ⟨hfind, hstands⟩ := Nat.find_spec hex
  have hle : Nat.find hex ≤ s.length := by
    have hmin : Nat.find hex ≤ before.length := Nat.find_min' hex ⟨hleast, by rwa [hs, List.drop_left]⟩
    have hlength := congrArg List.length hs
    rw [List.length_append] at hlength
    omega
  have hlength : (s.take (Nat.find hex)).length = Nat.find hex := List.length_take_of_le hle
  refine ⟨s.take (Nat.find hex), s.drop (Nat.find hex), (List.take_append_drop ..).symm,
    hlength.symm ▸ hfind, hstands, ?_⟩
  intro m hm hm' hstands'
  exact Nat.find_min hex (hlength ▸ hm) ⟨hm', hstands'⟩

/-- The first place is at the front, or it is the first one behind the front. -/
theorem firstCut_cons_iff {c : CodePoint} : FirstCut stands 0 (c :: s) before after ↔
    (stands (c :: s) ∧ before = [] ∧ after = c :: s) ∨
      (¬ stands (c :: s) ∧ ∃ before', before = c :: before' ∧ FirstCut stands 0 s before' after) := by
  constructor
  · rintro ⟨heq, -, hhere, hfirst⟩
    cases before with
    | nil =>
      cases heq
      exact .inl ⟨hhere, rfl, rfl⟩
    | cons d before =>
      obtain ⟨rfl, rfl⟩ := List.cons.inj heq
      refine .inr ⟨hfirst 0 (by simp) (Nat.le_refl 0), before, rfl, rfl, Nat.zero_le _, hhere, ?_⟩
      exact fun m hm _ => hfirst (m + 1) (by simpa using hm) (Nat.zero_le _)
  · rintro (⟨hhere, rfl, rfl⟩ | ⟨hnot, before, rfl, rfl, -, hhere, hfirst⟩)
    · exact ⟨rfl, Nat.le_refl 0, hhere, fun m hm => absurd hm (Nat.not_lt_zero m)⟩
    · refine ⟨rfl, Nat.zero_le _, hhere, fun m hm _ => ?_⟩
      cases m with
      | zero => exact hnot
      | succ m => exact hfirst m (by simpa using hm) (Nat.zero_le _)

/-- A place at some distance is not at the front. -/
theorem firstCut_succ_cons_iff {c : CodePoint} : FirstCut stands (least + 1) (c :: s) before after ↔
    ∃ before', before = c :: before' ∧ FirstCut stands least s before' after := by
  constructor
  · rintro ⟨heq, hleast, hhere, hfirst⟩
    cases before with
    | nil => exact absurd hleast (Nat.not_succ_le_zero least)
    | cons d before =>
      obtain ⟨rfl, rfl⟩ := List.cons.inj heq
      refine ⟨before, rfl, rfl, by simpa using hleast, hhere, fun m hm hm' => ?_⟩
      exact hfirst (m + 1) (by simpa using hm) (by omega)
  · rintro ⟨before, rfl, rfl, hleast, hhere, hfirst⟩
    refine ⟨rfl, by simpa using hleast, hhere, fun m hm hm' => ?_⟩
    cases m with
    | zero => omega
    | succ m => exact hfirst m (by simpa using hm) (by omega)

/-- Only what stands at the places of the text matters. -/
theorem FirstCut.congr (h : FirstCut stands least s before after)
    (hstands : ∀ t, t <:+ s → (stands t ↔ stands' t)) : FirstCut stands' least s before after := by
  have hafter : after <:+ s := ⟨before, h.eq.symm⟩
  exact ⟨h.eq, h.least_le, (hstands after hafter).1 h.here,
    fun m hm hm' => fun ht => h.first m hm hm' ((hstands _ (List.drop_suffix m s)).2 ht)⟩

end FirstCut

/-! ## §2 What stands behind a tag -/

/-- A colon and a space, with the rest of a line behind them. -/
def ColonHere (s : List CodePoint) : Prop :=
  ∃ text, s = [(':' : CodePoint), ' '] ++ text ∧ ('\n' : CodePoint) ∉ text

/-- What stands behind a colon that ends a tag is on one line. -/
theorem ColonHere.not_mem {text : List CodePoint}
    (h : ColonHere ([(':' : CodePoint), ' '] ++ text)) : ('\n' : CodePoint) ∉ text := by
  obtain ⟨_, ⟨⟩, htext⟩ := h
  exact htext

/-- A process number in parentheses, with spaces before it and a colon and a space behind it. -/
structure Bracket where
  spaces : List CodePoint
  pid : List CodePoint
  spaces_eq : ∀ c ∈ spaces, c = ' '
  pid_isNumber : IsNumber pid

/-- The characters of a process number in parentheses. -/
def Bracket.chars (b : Bracket) : List CodePoint :=
    '(' :: (b.spaces ++ b.pid ++ [(')' : CodePoint), ':', ' '])

/-- Behind its beginning a process number in parentheses has no parenthesis that opens. -/
theorem Bracket.not_mem (b : Bracket) :
    ('(' : CodePoint) ∉ b.spaces ++ b.pid ++ [(')' : CodePoint), ':', ' '] := by
  simp only [List.mem_append, not_or]
  refine ⟨⟨fun hc => ?_, fun hc => ?_⟩, by decide⟩
  · exact absurd (b.spaces_eq _ hc) (by decide)
  · exact absurd (b.pid_isNumber.2 _ hc) (by decide)

/-- A process number in parentheses, with the rest of a line behind it. -/
def BracketHere (s : List CodePoint) : Prop :=
  ∃ (b : Bracket) (text : List CodePoint), s = b.chars ++ text ∧ ('\n' : CodePoint) ∉ text

/-- A process number in parentheses is on one line with what stands behind it. -/
theorem BracketHere.not_mem {s : List CodePoint} (h : BracketHere s) : ('\n' : CodePoint) ∉ s := by
  obtain ⟨b, text, rfl, htext⟩ := h
  have hspaces : ('\n' : CodePoint) ∉ b.spaces :=
    fun hmem => absurd (b.spaces_eq _ hmem) (by decide)
  have hpid := not_mem_of_forall_isDecimal b.pid_isNumber.2
  simp [Bracket.chars, hspaces, hpid, htext]

/-- A process number in parentheses, with the colon and the space after it. -/
def HasBracket (s : List CodePoint) : Prop :=
  ∃ before spaces digits after : List CodePoint,
    s = before ++ .char '(' :: (spaces ++ digits ++ [(')' : CodePoint), ':', ' '] ++ after) ∧
    (∀ c ∈ spaces, c = ' ') ∧ IsNumber digits

/-- A tag without a colon and a space ends where these stand behind it. -/
theorem FirstCut.of_not_isInfix {tag text : List CodePoint}
    (htag : ¬ [(':' : CodePoint), ' '] <:+: tag)
    (htext : ('\n' : CodePoint) ∉ text) :
    FirstCut ColonHere 0 (tag ++ ([(':' : CodePoint), ' '] ++ text)) tag ([(':' : CodePoint), ' ']
      ++ text) := by
  refine ⟨rfl, Nat.zero_le _, ⟨text, rfl, htext⟩, fun m hm _ => ?_⟩
  rintro ⟨text', hs, -⟩
  have hsuffix : tag.drop m <:+ tag := List.drop_suffix m tag
  have hlength : 0 < (tag.drop m).length := by
    rw [List.length_drop]
    omega
  rw [List.drop_append_of_le_length hm.le] at hs
  -- A separator that begins in the tag either ends in it or begins at its last character.
  rcases hdrop : tag.drop m with _ | ⟨c, _ | ⟨d, rest⟩⟩
  · rw [hdrop] at hlength
    cases hlength
  · simp [hdrop] at hs
  · rw [hdrop] at hs hsuffix
    obtain ⟨rfl, htail⟩ := List.cons.inj hs
    obtain ⟨rfl, -⟩ := List.cons.inj htail
    exact htag ((List.prefix_append [(':' : CodePoint), ' '] rest).isInfix.trans hsuffix.isInfix)

/-- A tag without a process number in parentheses ends where one stands behind it. -/
theorem FirstCut.of_not_hasBracket {tag text : List CodePoint} (htag : ¬ HasBracket tag)
    (hne : tag ≠ [])
    (b : Bracket) (htext : ('\n' : CodePoint) ∉ text) :
    FirstCut BracketHere 1 (tag ++ (b.chars ++ text)) tag (b.chars ++ text) := by
  refine ⟨rfl, List.length_pos_iff.2 hne, ⟨b, text, rfl, htext⟩, fun m hm _ => ?_⟩
  rintro ⟨b', text', hs, -⟩
  rw [List.drop_append_of_le_length hm.le] at hs
  have hoverlap : ∀ rest, tag.drop m ≠ b'.chars ++ rest := by
    intro rest hdrop
    refine htag ⟨tag.take m, b'.spaces, b'.pid, rest, ?_, b'.spaces_eq, b'.pid_isNumber⟩
    conv_lhs => rw [← List.take_append_drop m tag, hdrop, Bracket.chars]
    simp only [List.append_assoc, List.cons_append, List.nil_append]
  rcases List.append_eq_append_iff.1 hs with ⟨rest, hchars, hrest⟩ | ⟨rest, hdrop, -⟩
  · -- The number would have to go on past the other parenthesis.
    cases rest with
    | nil => exact hoverlap [] (by rw [hchars, List.append_nil, List.append_nil])
    | cons c rest =>
      obtain ⟨rfl, -⟩ := List.cons.inj hrest
      have hlength : 0 < (tag.drop m).length := by
        rw [List.length_drop]
        omega
      obtain ⟨d, front, hfront⟩ := List.exists_cons_of_length_pos hlength
      rw [hfront, List.cons_append, Bracket.chars] at hchars
      refine b'.not_mem (?_ : ('(' : CodePoint) ∈ _)
      rw [(List.cons.inj hchars).2]
      exact List.mem_append_right _ (List.mem_cons_self ..)
  · exact hoverlap rest hdrop

/-- The cut at a colon is the first one possible. -/
theorem cutAtColon_eq_some_iff {s passed before text : List CodePoint} :
    cutAtColon s passed = some (before, text) ↔ ∃ b, before = passed.reverse ++ b ∧
      FirstCut ColonHere 0 s b ([(':' : CodePoint), ' '] ++ text) := by
  -- What was passed grows with every character, so the induction is on all of it.
  induction s, passed using cutAtColon.induct with
  | case1 passed =>
    constructor
    · intro h
      cases h
    · rintro ⟨b, -, heq, -⟩
      cases b <;> cases heq
  | case2 passed text' hline =>
    have hhere : ColonHere (':' :: ' ' :: text') := ⟨text', rfl, oneLine_iff.1 hline⟩
    rw [cutAtColon, if_pos hline, Option.some.injEq, Prod.mk.injEq]
    simp only [firstCut_cons_iff (s := ' ' :: text'), hhere, true_and, not_true_eq_false, false_and,
      or_false]
    constructor
    · rintro ⟨rfl, rfl⟩
      exact ⟨[], by simp, rfl, rfl⟩
    · rintro ⟨b, rfl, rfl, htext⟩
      cases htext
      exact ⟨by simp, rfl⟩
  | case3 passed text' hline ih =>
    have hnot : ¬ ColonHere (':' :: ' ' :: text') := by
      rintro ⟨text, heq, htext⟩
      cases heq
      exact hline (oneLine_iff.2 htext)
    rw [cutAtColon, if_neg hline, ih]
    simp [firstCut_cons_iff (c := ':'), hnot]
  | case4 c rest passed hother ih =>
    have hnot : ¬ ColonHere (c :: rest) := by
      rintro ⟨text, heq, -⟩
      obtain ⟨rfl, rfl⟩ := List.cons.inj heq
      exact hother text rfl rfl
    rw [cutAtColon, ih]
    · simp [firstCut_cons_iff (c := c), hnot]
    · exact hother

/-- What is read behind a parenthesis is a process number and a text on one line. -/
theorem bracketed?_eq_some_iff {s pid text : List CodePoint} : bracketed? s = some (pid, text) ↔
    ∃ b : Bracket, .char '(' :: s = b.chars ++ text ∧ b.pid = pid ∧ ('\n' : CodePoint) ∉ text := by
  simp only [bracketed?, Option.bind_eq_bind, Option.bind_eq_some_iff, Prod.exists,
    digits?_eq_some_iff, char?_eq_some_iff, Option.ite_none_right_eq_some, oneLine_iff]
  constructor
  · rintro ⟨_, _, ⟨hdrop, hpid, -⟩, _, rfl, _, rfl, _, rfl, htext, ⟨⟩⟩
    obtain ⟨hs, hspaces, -⟩ := span_eq_iff.1 ⟨rfl, hdrop⟩
    refine ⟨⟨_, pid, fun c hc => by simpa using hspaces c hc, hpid⟩, ?_, rfl, htext⟩
    conv_lhs => rw [hs]
    simp [Bracket.chars]
  · rintro ⟨b, hs, rfl, htext⟩
    have hspan : s.takeWhile (· == (' ' : CodePoint)) = b.spaces ∧
        s.dropWhile (· == (' ' : CodePoint))
          = b.pid ++ .char ')' :: .char ':' :: .char ' ' :: text := by
      refine span_eq_iff.2 ⟨?_, fun c hc => by simpa using b.spaces_eq c hc, fun c hc => ?_⟩
      · rw [(List.cons.inj hs).2]
        simp
      · have hblank := b.pid_isNumber.isBlank_head _ c hc
        rw [beq_eq_false_iff_ne]
        rintro rfl
        exact absurd hblank (by decide)
    refine ⟨b.pid, _, ⟨hspan.2, b.pid_isNumber, ?_⟩, _, rfl, _, rfl, _, rfl, htext, rfl⟩
    rintro c ⟨⟩
    decide

/-- Behind the front the cut at a process number is the first one possible. -/
theorem cutAtBracket_eq_some_iff_of_ne_nil {s passed before pid text : List CodePoint}
    (hne : passed ≠ []) :
    cutAtBracket s passed = some (before, pid, text) ↔ ∃ (b : List CodePoint) (bracket : Bracket),
      before = passed.reverse ++ b ∧ bracket.pid = pid ∧
        FirstCut BracketHere 0 s b (bracket.chars ++ text) := by
  induction s generalizing passed with
  | nil =>
    constructor
    · intro h
      cases h
    · rintro ⟨b, bracket, -, -, heq, -⟩
      cases b <;> cases heq
  | cons c s ih =>
    -- As something has been passed, the cut is here exactly if a process number stands here.
    have hhere : ∀ pid text, (if c = '(' ∧ passed ≠ [] then bracketed? s else none) = some (pid, text) ↔
        ∃ b : Bracket, c :: s = b.chars ++ text ∧ b.pid = pid ∧ ('\n' : CodePoint) ∉ text := by
      intro pid text
      rw [Option.ite_none_right_eq_some, bracketed?_eq_some_iff]
      constructor
      · rintro ⟨⟨rfl, -⟩, h⟩
        exact h
      · rintro ⟨b, hs, hb⟩
        obtain rfl : c = '(' := (List.cons.inj hs).1
        exact ⟨⟨rfl, hne⟩, b, hs, hb⟩
    rw [cutAtBracket]
    cases hread : if c = '(' ∧ passed ≠ [] then bracketed? s else none with
    | some r =>
      obtain ⟨pid', text'⟩ := r
      obtain ⟨bracket, hs, rfl, htext'⟩ := (hhere _ _).1 hread
      dsimp only
      constructor
      · intro h
        cases h
        exact ⟨[], bracket, by simp, rfl,
          firstCut_cons_iff.2 (.inl ⟨⟨bracket, text, hs, htext'⟩, rfl, hs.symm⟩)⟩
      · rintro ⟨b, bracket', rfl, rfl, hcut⟩
        obtain ⟨-, rfl, hs'⟩ | ⟨hnot, -⟩ := firstCut_cons_iff.1 hcut
        · have htext : ('\n' : CodePoint) ∉ text :=
            fun hmem => hcut.here.not_mem (List.mem_append_right _ hmem)
          have hread' := (hhere _ _).2 ⟨bracket', hs'.symm, rfl, htext⟩
          rw [hread, Option.some.injEq, Prod.mk.injEq] at hread'
          rw [hread'.1, hread'.2, List.append_nil]
        · -- A number stands here, so the first cut is not further on.
          exact absurd ⟨bracket, text', hs, htext'⟩ hnot
    | none =>
      have hnot : ¬ BracketHere (c :: s) := by
        rintro ⟨b, text, hs, htext⟩
        rw [(hhere _ _).2 ⟨b, hs, rfl, htext⟩] at hread
        cases hread
      dsimp only
      rw [ih (List.cons_ne_nil c passed)]
      constructor
      · rintro ⟨b, bracket, rfl, rfl, hcut⟩
        exact ⟨c :: b, bracket, by simp, rfl, firstCut_cons_iff.2 (.inr ⟨hnot, b, rfl, hcut⟩)⟩
      · rintro ⟨b, bracket, rfl, rfl, hcut⟩
        obtain ⟨hyes, -⟩ | ⟨-, b, rfl, hrest⟩ := firstCut_cons_iff.1 hcut
        · exact absurd hyes hnot
        · exact ⟨b, bracket, by simp, rfl, hrest⟩

/-- The cut at a process number is the first one possible behind the front. -/
theorem cutAtBracket_eq_some_iff {s before pid text : List CodePoint} :
    cutAtBracket s [] = some (before, pid, text) ↔
      ∃ bracket : Bracket, bracket.pid = pid ∧
        FirstCut BracketHere 1 s before (bracket.chars ++ text) := by
  cases s with
  | nil =>
    constructor
    · intro h
      cases h
    · rintro ⟨bracket, -, heq, -⟩
      cases before <;> cases heq
  | cons c s =>
    have hfront : cutAtBracket (c :: s) [] = cutAtBracket s [c] := by simp [cutAtBracket]
    simp only [hfront, cutAtBracket_eq_some_iff_of_ne_nil (List.cons_ne_nil c []),
      firstCut_succ_cons_iff]
    constructor
    · rintro ⟨b, bracket, rfl, hpid, hcut⟩
      exact ⟨bracket, hpid, b, rfl, hcut⟩
    · rintro ⟨bracket, hpid, b, rfl, hcut⟩
      exact ⟨b, bracket, rfl, hpid, hcut⟩

/-! ## §3 The two shapes -/

/-- What a line with date and time begins with, up to the letter of its level. -/
structure TimedHead where
  date : List CodePoint
  afterDate : List CodePoint
  time : List CodePoint
  afterTime : List CodePoint
  pid : List CodePoint
  afterPid : List CodePoint
  tid : List CodePoint
  afterTid : List CodePoint
  letter : CodePoint
  date_isDate : IsDate date
  afterDate_isGap : IsGap afterDate
  time_isTime : IsTime time
  afterTime_isGap : IsGap afterTime
  pid_isNumber : IsNumber pid
  afterPid_isGap : IsGap afterPid
  tid_isNumber : IsNumber tid
  afterTid_isGap : IsGap afterTid
  letter_mem : letter ∈ letters

/-- The characters of the beginning of a line with date and time. -/
def TimedHead.chars (h : TimedHead) : List CodePoint :=
  h.date ++ h.afterDate ++ h.time ++ h.afterTime ++ h.pid ++ h.afterPid ++ h.tid ++ h.afterTid ++
    [h.letter]

/-- A line with date and time consists of its pieces, cut at the first colon behind the level. -/
theorem readTimed_eq_some_iff {s : List CodePoint} {l : LogLine} : readTimed s = some l ↔
    ∃ (h : TimedHead) (level : Level) (gap rest before text : List CodePoint),
      s = h.chars ++ gap ++ rest ∧ levelOf? h.letter = some level ∧ IsGap gap ∧
      (∀ c ∈ rest.head?, isBlank c = false) ∧
      FirstCut ColonHere 0 rest before ([(':' : CodePoint), ' '] ++ text) ∧
        ('\n' : CodePoint) ∉ trimRight before ∧
      l = ⟨h.date ++ [(' ' : CodePoint)] ++ h.time, h.pid, some h.tid, level, trimRight before,
        text⟩ := by
  simp only [readTimed, Option.bind_eq_bind, Option.bind_eq_some_iff, Prod.exists,
    date?_eq_some_iff, time?_eq_some_iff, digits?_eq_some_iff, blanks?_eq_some_iff,
    cutAtColon_eq_some_iff, List.reverse_nil, List.nil_append, exists_eq_left',
    Option.ite_none_right_eq_some, oneLine_iff]
  constructor
  · rintro ⟨date, s₁, ⟨rfl, hdate⟩, s₂, ⟨gap₁, rfl, hgap₁, -⟩, time, s₃, ⟨rfl, htime, -⟩, s₄,
      ⟨gap₂, rfl, hgap₂, -⟩, pid, s₅, ⟨rfl, hpid, -⟩, s₆, ⟨gap₃, rfl, hgap₃, -⟩, tid, s₇,
      ⟨rfl, htid, -⟩, s₈, ⟨gap₄, rfl, hgap₄, -⟩, letter, hletter, level, hlevel, rest,
      ⟨gap, hrest, hgap, hnext⟩, before, text, hcut, htag, hl⟩
    obtain ⟨s₉, rfl⟩ := List.head?_eq_some_iff.1 hletter
    obtain rfl : s₉ = gap ++ rest := hrest
    have hmem : letter ∈ letters := isSome_levelOf?_iff.1 (hlevel ▸ rfl)
    exact ⟨⟨date, gap₁, time, gap₂, pid, gap₃, tid, gap₄, letter, hdate, hgap₁, htime, hgap₂, hpid, hgap₃,
      htid, hgap₄, hmem⟩, level, gap, rest, before, text, by simp [TimedHead.chars], hlevel, hgap,
      hnext, hcut, htag, (Option.some.inj hl).symm⟩
  · rintro ⟨h, level, gap, rest, before, text, rfl, hlevel, hgap, hnext, hcut, htag, rfl⟩
    -- Each reader stops where the next piece begins, as the pieces take turns with white space.
    have hletter : ∀ c ∈ (h.letter :: (gap ++ rest)).head?, isBlank c = false := by
      rintro c ⟨⟩
      exact (isBlank_letter h.letter_mem).1
    refine ⟨h.date, _, ⟨?_, h.date_isDate⟩, _, ⟨h.afterDate, rfl, h.afterDate_isGap, ?_⟩,
      h.time, _, ⟨rfl, h.time_isTime, h.afterTime_isGap.isDecimal_head _⟩, _,
      ⟨h.afterTime, rfl, h.afterTime_isGap, h.pid_isNumber.isBlank_head _⟩,
      h.pid, _, ⟨rfl, h.pid_isNumber, h.afterPid_isGap.isDecimal_head _⟩, _,
      ⟨h.afterPid, rfl, h.afterPid_isGap, h.tid_isNumber.isBlank_head _⟩,
      h.tid, _, ⟨rfl, h.tid_isNumber, h.afterTid_isGap.isDecimal_head _⟩, _,
      ⟨h.afterTid, rfl, h.afterTid_isGap, hletter⟩,
      h.letter, rfl, level, hlevel, rest, ⟨gap, rfl, hgap, hnext⟩, before, text, hcut, htag, rfl⟩
    · simp [TimedHead.chars]
    · exact h.time_isTime.isBlank_head _

/-- A brief line consists of its pieces, cut at the first process number behind the front. -/
theorem readBrief_eq_some_iff {s : List CodePoint} {l : LogLine} : readBrief s = some l ↔
    ∃ (letter : CodePoint) (level : Level) (rest before : List CodePoint) (bracket : Bracket)
      (text : List CodePoint),
      s = letter :: '/' :: rest ∧ levelOf? letter = some level ∧
      FirstCut BracketHere 1 rest before (bracket.chars ++ text) ∧ ('\n' : CodePoint) ∉ before ∧
      l = ⟨[], bracket.pid, none, level, trim before, text⟩ := by
  simp only [readBrief, Option.bind_eq_bind, Option.bind_eq_some_iff, Prod.exists,
    char?_eq_some_iff, cutAtBracket_eq_some_iff, Option.ite_none_right_eq_some, oneLine_iff]
  constructor
  · rintro ⟨letter, hletter, level, hlevel, rest, hslash, before, _, text, ⟨bracket, rfl, hcut⟩, htag, hl⟩
    obtain ⟨s, rfl⟩ := List.head?_eq_some_iff.1 hletter
    obtain rfl : s = .char '/' :: rest := hslash
    exact ⟨letter, level, rest, before, bracket, text, rfl, hlevel, hcut, htag, (Option.some.inj hl).symm⟩
  · rintro ⟨letter, level, rest, before, bracket, text, rfl, hlevel, hcut, htag, rfl⟩
    exact ⟨letter, rfl, level, hlevel, rest, rfl, before, bracket.pid, text, ⟨bracket, rfl, hcut⟩, htag, rfl⟩

/-! ## §4 Where a tag ends -/

theorem length_sub_trimRight {s blanks : List CodePoint} (h : s = trimRight s ++ blanks) :
    s.length - (trimRight s).length = blanks.length := by
  have hlength := congrArg List.length h
  rw [List.length_append] at hlength
  omega

/-- A text is trimmed at its end only if it does not begin with white space. -/
theorem trim_of_head {s : List CodePoint} (h : ∀ c ∈ s.head?, isBlank c = false) :
    trim s = trimRight s := by
  rw [trim, dropBlanks_of_head h]

theorem isBlank_head_of_isPrefix {front s : List CodePoint} (h : front <+: s)
    (hs : ∀ c ∈ s.head?, isBlank c = false) : ∀ c ∈ front.head?, isBlank c = false := by
  obtain ⟨rest, rfl⟩ := h
  intro c hc
  refine hs c ?_
  rw [List.head?_append, Option.mem_def.1 hc]
  rfl

/-- White space up to a colon and a space, with the rest of a line behind them. -/
def ColonBehindBlanks (s : List CodePoint) : Prop :=
  ∃ blanks after, s = blanks ++ after ∧ (∀ c ∈ blanks, isBlank c = true) ∧ ColonHere after

section TagEnd

variable {s before after blanks : List CodePoint}

/-- White space before a colon ends at the colon. -/
theorem ColonHere.span_eq (h : ColonHere after) (hblanks : ∀ c ∈ blanks, isBlank c = true) :
    (blanks ++ after).takeWhile isBlank = blanks ∧ (blanks ++ after).dropWhile isBlank = after := by
  refine span_eq_iff.2 ⟨rfl, hblanks, ?_⟩
  obtain ⟨text, rfl, -⟩ := h
  rintro c ⟨⟩
  decide

/-- Between a trimmed text and the place where the text is cut there is white space only. -/
theorem FirstCut.exists_blanks {stands : List CodePoint → Prop} {least : Nat}
    (h : FirstCut stands least s before after) :
    ∃ blanks, before = trimRight before ++ blanks ∧ s = trimRight before ++ (blanks ++ after) ∧
      ∀ c ∈ blanks, isBlank c = true := by
  obtain ⟨blanks, hbefore, hblanks, -⟩ := trimRight_eq_iff.1 (rfl : trimRight before = _)
  refine ⟨blanks, hbefore, ?_, hblanks⟩
  rw [← List.append_assoc, ← hbefore]
  exact h.eq

/-- The trimmed text before the first colon is the shortest that is followed by white space and a
colon. -/
theorem FirstCut.not_colonBehindBlanks (h : FirstCut ColonHere 0 s before after) {m : Nat}
    (hm : m < (trimRight before).length) : ¬ ColonBehindBlanks (s.drop m) := by
  rintro ⟨blanks', after', hdrop, hblanks', hafter'⟩
  obtain ⟨blanks, hbefore, -, hlast⟩ := trimRight_eq_iff.1 (rfl : trimRight before = _)
  have hle : m ≤ (trimRight before).length := hm.le
  -- The colon is no earlier than the first one, so the white space before it covers the tag's end.
  have hcolon : before.length ≤ m + blanks'.length := by
    by_contra hlt
    refine h.first _ (Nat.not_le.1 hlt) (Nat.zero_le _) ?_
    rwa [← List.drop_drop, hdrop, List.drop_left]
  have hwithin : (trimRight before).drop m ++ blanks <+: blanks' := by
    have hs : s.drop m = ((trimRight before).drop m ++ blanks) ++ after := by
      rw [h.eq]
      conv_lhs => rw [hbefore]
      rw [List.append_assoc, List.drop_append_of_le_length hle, List.append_assoc]
    refine List.prefix_of_prefix_length_le ⟨after, hs.symm⟩ ⟨after', hdrop.symm⟩ ?_
    have hlength := congrArg List.length hbefore
    rw [List.length_append] at hlength
    rw [List.length_append, List.length_drop]
    omega
  rcases List.eq_nil_or_concat (trimRight before) with hnil | ⟨front, c, htag⟩
  · rw [hnil] at hm
    cases hm
  · rw [List.concat_eq_append] at htag
    have hmem : c ∈ (trimRight before).drop m := by
      rw [htag, List.length_append, List.length_singleton] at hm
      rw [htag, List.drop_append_of_le_length (by omega)]
      exact List.mem_append_right _ (List.mem_singleton_self c)
    have hblank := hblanks' c (hwithin.subset (List.mem_append_left _ hmem))
    rw [hlast c (by simp [htag])] at hblank
    cases hblank

/-- The shortest front that is followed by white space and a colon is the trimmed text before the
first colon. -/
theorem firstCut_of_shortest {front : List CodePoint} (hs : s = front ++ (blanks ++ after))
    (hblanks : ∀ c ∈ blanks, isBlank c = true) (hafter : ColonHere after)
    (hshortest : ∀ m < front.length, ¬ ColonBehindBlanks (s.drop m)) :
    FirstCut ColonHere 0 s (front ++ blanks) after ∧ trimRight (front ++ blanks) = front := by
  have hs' : s = (front ++ blanks) ++ after := by rw [hs, List.append_assoc]
  obtain ⟨before, after', hcut⟩ := exists_firstCut ColonHere hs' (Nat.zero_le _) hafter
  obtain ⟨blanks', hbefore, hsplit, hblanks'⟩ := hcut.exists_blanks
  have heq : front ++ (blanks ++ after) = trimRight before ++ (blanks' ++ after') := by
    rw [← hs, hsplit]
  -- Both fronts are followed by white space and a colon, and none shorter than them is.
  have hlength : front.length = (trimRight before).length := by
    refine Nat.le_antisymm (Nat.not_lt.1 fun hlt => ?_) (Nat.not_lt.1 fun hlt => ?_)
    · refine hshortest _ hlt ⟨blanks', after', ?_, hblanks', hcut.here⟩
      rw [hsplit, List.drop_left]
    · refine hcut.not_colonBehindBlanks hlt ⟨blanks, after, ?_, hblanks, hafter⟩
      rw [hs, List.drop_left]
  obtain ⟨hfront, hrest⟩ := List.append_inj heq hlength
  have hspan := hafter.span_eq hblanks
  rw [hrest, (hcut.here.span_eq hblanks').1, (hcut.here.span_eq hblanks').2] at hspan
  obtain ⟨rfl, rfl⟩ := hspan
  rw [hfront, ← hbefore]
  exact ⟨hcut, rfl⟩

/-- A tag on one line with white space, a colon and a space behind it, and with the rest of a line.
-/
def Tagged (s : List CodePoint) : Prop :=
  ∃ front tail, s = front ++ tail ∧ ('\n' : CodePoint) ∉ front ∧ ColonBehindBlanks tail

/-- If there is any tag, there is one before the first colon. -/
theorem tagged_iff : Tagged s ↔
    ∃ before after, FirstCut ColonHere 0 s before after ∧
      ('\n' : CodePoint) ∉ trimRight before := by
  constructor
  · rintro ⟨front, tail, hs, hline, blanks, after, htail, hblanks, hafter⟩
    have hs' : s = (front ++ blanks) ++ after := by rw [hs, htail, List.append_assoc]
    obtain ⟨before, after', hcut⟩ := exists_firstCut ColonHere hs' (Nat.zero_le _) hafter
    obtain ⟨blanks', -, hsplit, -⟩ := hcut.exists_blanks
    have hle : (trimRight before).length ≤ front.length := by
      refine Nat.not_lt.1 fun hlt => hcut.not_colonBehindBlanks hlt ⟨blanks, after, ?_, hblanks, hafter⟩
      rw [hs, List.drop_left, htail]
    have hwithin : trimRight before <+: front :=
      List.prefix_of_prefix_length_le ⟨_, hsplit.symm⟩ ⟨tail, hs.symm⟩ hle
    exact ⟨before, after', hcut, fun hmem => hline (hwithin.subset hmem)⟩
  · rintro ⟨before, after, hcut, hline⟩
    obtain ⟨blanks, -, hsplit, hblanks⟩ := hcut.exists_blanks
    exact ⟨trimRight before, _, hsplit, hline, blanks, after, rfl, hblanks, hcut.here⟩

/-- White space in front of a tag can be left out. -/
theorem Tagged.of_append {gap : List CodePoint} (hgap : ∀ c ∈ gap, isBlank c = true)
    (h : Tagged (gap ++ s)) : Tagged s := by
  induction gap with
  | nil => exact h
  | cons c gap ih =>
    refine ih (fun d hd => hgap d (List.mem_cons_of_mem c hd)) ?_
    obtain ⟨front, tail, hs, hline, blanks, after, rfl, hblanks, hafter⟩ := h
    cases front with
    | cons d front =>
      obtain ⟨rfl, hrest⟩ := List.cons.inj hs
      exact ⟨front, _, hrest, fun hmem => hline (List.mem_cons_of_mem c hmem), blanks, after, rfl, hblanks,
        hafter⟩
    | nil =>
      cases blanks with
      | cons d blanks =>
        obtain ⟨rfl, hrest⟩ := List.cons.inj hs
        exact ⟨[], _, hrest, List.not_mem_nil, blanks, after, rfl,
          fun d hd => hblanks d (List.mem_cons_of_mem c hd), hafter⟩
      | nil =>
        -- The colon itself is no white space.
        obtain ⟨text, rfl, -⟩ := hafter
        obtain ⟨rfl, -⟩ := List.cons.inj hs
        exact absurd (hgap ':' (List.mem_cons_self ..)) (by decide)

end TagEnd

end LogViewer.LogLine
