import LogViewer.Pattern.Basic

/-!
# Repetition numbers that are too large

A pattern is refused because a repetition number is too large only if such a number is written in
it. While a pattern is read, the token in view and the text after it are always an end of the
pattern, so whatever digits a step takes stand in the pattern one after the other.

## Main definitions

- `HasLargeNumber`: a text in which a number that is too large is written
- `Gives`, `Stays`: what a step of the reader keeps and gives

## Main statements

- `gives_takeAll`: the digits that are taken stand in the pattern
- `stays_readCount`: a repetition in braces
- `hasLargeNumber_of_compile`: the whole reader
-/

namespace LogViewer

variable {ε α β : Type}

/-! ## §1 Faults that do not occur -/

/-- A result that is not a given fault. -/
def Avoids (fault : ε) (x : Except ε α) : Prop := x ≠ .error fault

variable {fault : ε}

@[grind ←]
theorem avoids_pure (a : α) : Avoids fault (pure a) := by
  rintro ⟨⟩

@[grind ←]
theorem avoids_throw {e : ε} (h : e ≠ fault) : Avoids fault (throw e : Except ε α) :=
  fun he => h (Except.error.inj he)

@[grind ←]
theorem avoids_bind {x : Except ε α} {f : α → Except ε β} (hx : Avoids fault x)
    (hf : ∀ a, Avoids fault (f a)) : Avoids fault (x >>= f) := by
  cases x with
  | error e => exact fun h => hx (by cases h; rfl)
  | ok a => exact hf a

namespace Pattern

open Read

/-! ## §2 Steps within a pattern -/

/-- A number that is too large to be counted is written in a text. -/
def HasLargeNumber (text : List CodePoint) : Prop :=
  ∃ digits, digits <:+: text ∧ (∀ c ∈ digits, isPlainDigit c = true) ∧
    countLimit ≤ Text.digitsValue digits

theorem run_bind (x : Read α) (f : α → Read β) (s : State) :
    (x >>= f) s = (x s).bind fun p => f p.1 p.2 := rfl

theorem run_pure (a : α) (s : State) : (pure a : Read α) s = .ok (a, s) := rfl

theorem run_get (s : State) : (get : Read State) s = .ok (s, s) := rfl

theorem run_set (s s' : State) : (set s : Read PUnit) s' = .ok ((), s) := rfl

/-- The text from the token in view on. -/
def State.view (s : State) : List CodePoint :=
  (s.next.map Token.chars).getD [] ++ s.rest

/-- In a pattern a step stays, gives a result with a property, and finds a repetition number too
large only if the pattern has one. -/
def Gives (pattern : List CodePoint) (P : α → Prop) (x : Read α) : Prop :=
  ∀ s, s.view <:+ pattern →
    match x s with
    | .ok (a, s') => s'.view <:+ pattern ∧ P a
    | .error e => e = .repetitionTooLarge → HasLargeNumber pattern

/-- A step that stays in a pattern, whatever its result. -/
def Stays (pattern : List CodePoint) (x : Read α) : Prop :=
  Gives pattern (fun _ => True) x

variable {pattern : List CodePoint}

/-- One step after another, which can rely on what the first one gives. -/
theorem Gives.bind {P : α → Prop} {Q : β → Prop} {x : Read α} {f : α → Read β}
    (hx : Gives pattern P x) (hf : ∀ a, P a → Gives pattern Q (f a)) :
    Gives pattern Q (x >>= f) := by
  intro s hs
  have hfirst := hx s hs
  rw [run_bind]
  cases hrun : x s with
  | error e =>
    rw [hrun] at hfirst
    exact hfirst
  | ok p =>
    rw [hrun] at hfirst
    exact hf p.1 hfirst.2 p.2 hfirst.1

@[grind ←]
theorem stays_bind {x : Read α} {f : α → Read β} (hx : Stays pattern x)
    (hf : ∀ a, Stays pattern (f a)) : Stays pattern (x >>= f) :=
  Gives.bind hx fun a _ => hf a

@[grind ←]
theorem stays_pure (a : α) : Stays pattern (pure a) := fun _ hs => ⟨hs, trivial⟩

theorem gives_pure {P : α → Prop} {a : α} (h : P a) : Gives pattern P (pure a) :=
  fun _ hs => ⟨hs, h⟩

@[grind ←]
theorem stays_get : Stays pattern (get : Read State) := fun _ hs => ⟨hs, trivial⟩

theorem gives_get : Gives pattern (fun s => s.view <:+ pattern) (get : Read State) :=
  fun _ hs => ⟨hs, hs⟩

theorem stays_set {s : State} (h : s.view <:+ pattern) : Stays pattern (set s) :=
  fun _ _ => ⟨h, trivial⟩

/-- A change of what was learnt so far does not move ahead. -/
theorem stays_modify {f : State → State} (h : ∀ s, (f s).view = s.view) :
    Stays pattern (modify f) := by
  intro s hs
  refine ⟨?_, trivial⟩
  rw [h s]
  exact hs

/-- A fault of grammar is no repetition number. -/
@[grind ←]
theorem stays_refuse (cause : Cause) (back : Nat) :
    Stays pattern (refuse cause back : Read α) := by
  intro s hs h
  cases h

@[grind ←]
theorem stays_throw {e : Error} (h : e ≠ .repetitionTooLarge) :
    Stays pattern (throw e : Read α) := fun _ _ he => absurd he h

/-- Nothing is read after a fault. -/
theorem stays_throw_bind {e : Error} (h : e ≠ .repetitionTooLarge) (f : α → Read β) :
    Stays pattern ((throw e : Read α) >>= f) := fun _ _ he => absurd he h

theorem stays_refuse_bind (cause : Cause) (back : Nat) (f : α → Read β) :
    Stays pattern (refuse cause back >>= f) := by
  intro s hs h
  cases h

@[grind ←]
theorem stays_position : Stays pattern position := stays_bind stays_get fun _ => stays_pure _

/-! ## §3 Moving ahead -/

/-- Moving ahead brings into view what was behind the token in view, unless that is a backslash
alone. -/
theorem advance_cases (s : State) :
    (∃ position, advance s = .error (.grammar .badEscapeAtEnd position)) ∨
    ∃ s', advance s = .ok ((), s') ∧ s'.view = s.rest := by
  obtain ⟨token, rest, index, flags, names, widths, lookbehind, conditions⟩ := s
  cases rest with
  | nil => exact .inr ⟨_, rfl, rfl⟩
  | cons c rest =>
    by_cases hc : c = '\\'
    · subst hc
      cases rest with
      | nil => exact .inl ⟨_, rfl⟩
      | cons c rest => exact .inr ⟨_, rfl, rfl⟩
    · -- Any other character is a token of its own.
      have hadvance :
          advance ⟨token, c :: rest, index, flags, names, widths, lookbehind, conditions⟩ = .ok ((),
            ⟨some (.plain c), rest, index + 1, flags, names, widths, lookbehind, conditions⟩) := by
        simp [advance, hc, run_bind, run_get, run_set, Except.bind]
      exact .inr ⟨_, hadvance, rfl⟩

@[grind ←]
theorem stays_advance : Stays pattern advance := by
  intro s hs
  rcases advance_cases s with ⟨position, hrun⟩ | ⟨s', hrun, hview⟩
  · rw [hrun]
    intro h
    cases h
  · rw [hrun]
    refine ⟨?_, trivial⟩
    rw [hview]
    exact (List.suffix_append _ _).trans hs

@[grind ←]
theorem stays_take : Stays pattern take :=
  stays_bind stays_get fun _ => stays_bind stays_advance fun _ => stays_pure _

@[grind ←]
theorem stays_accept (c : CodePoint) : Stays pattern (accept c) := by
  unfold accept
  grind

/-- Nothing is taken where no character of the class is in view. -/
theorem takeWhile_stop {holds : CodePoint → Bool} (n : Nat) {s : State}
    (h : ∀ c, s.next = some (.plain c) → holds c = false) :
    Read.takeWhile holds n s = .ok ([], s) := by
  obtain ⟨token, rest, index, flags, names, widths, lookbehind, conditions⟩ := s
  cases n with
  | zero => rfl
  | succ n =>
    cases token with
    | none => rfl
    | some t =>
      cases t with
      | escape c => rfl
      | plain c =>
        have hc : holds c = false := h c rfl
        simp [Read.takeWhile, hc, run_bind, run_get, run_pure, Except.bind]

/-- A character of the class is taken. -/
theorem takeWhile_take {holds : CodePoint → Bool} (n : Nat) {s : State} {c : CodePoint}
    (h : s.next = some (.plain c)) (hc : holds c = true) :
    Read.takeWhile holds (n + 1) s = (do
      advance
      let more ← Read.takeWhile holds n
      return c :: more : Read (List CodePoint)) s := by
  obtain ⟨token, rest, index, flags, names, widths, lookbehind, conditions⟩ := s
  cases h
  rw [Read.takeWhile]
  simp [hc, run_bind, run_get, Except.bind]

/-- Characters that are taken one after the other stand so in the text in view. -/
theorem takeWhile_cases (holds : CodePoint → Bool) (n : Nat) (s : State) :
    (∃ position, Read.takeWhile holds n s = .error (.grammar .badEscapeAtEnd position)) ∨
    ∃ cs s', Read.takeWhile holds n s = .ok (cs, s') ∧ s.view = cs ++ s'.view ∧
      ∀ c ∈ cs, holds c = true := by
  induction n generalizing s with
  | zero => exact .inr ⟨[], s, rfl, rfl, by simp⟩
  | succ n ih =>
    by_cases hnext : ∃ c, s.next = some (.plain c) ∧ holds c = true
    · obtain ⟨c, hnext, hc⟩ := hnext
      rw [takeWhile_take n hnext hc]
      rcases advance_cases s with ⟨position, hrun⟩ | ⟨s₁, hrun, hview⟩
      · refine .inl ⟨position, ?_⟩
        simp only [run_bind, hrun, Except.bind]
      rcases ih s₁ with ⟨position, hmore⟩ | ⟨cs, s', hmore, hcs, hholds⟩
      · refine .inl ⟨position, ?_⟩
        simp only [run_bind, hrun, hmore, Except.bind]
      · refine .inr ⟨c :: cs, s', ?_, ?_, ?_⟩
        · simp only [run_bind, run_pure, hrun, hmore, Except.bind]
        · have hs : s.view = c :: s.rest := by simp [State.view, hnext, Token.chars]
          rw [hs, ← hview, hcs, List.cons_append]
        · simpa [hc] using hholds
    · refine .inr ⟨[], s, takeWhile_stop _ fun c hc => ?_, rfl, by simp⟩
      simpa using fun h => hnext ⟨c, hc, h⟩

/-- A row of digits that stands in a text. -/
def IsRow (text digits : List CodePoint) : Prop :=
  digits <:+: text ∧ ∀ c ∈ digits, isPlainDigit c = true

theorem gives_takeAll : Gives pattern (IsRow pattern) (takeAll isPlainDigit) := by
  intro s hs
  have hall : takeAll isPlainDigit s = Read.takeWhile isPlainDigit (s.rest.length + 1) s := rfl
  rw [hall]
  rcases takeWhile_cases isPlainDigit (s.rest.length + 1) s with
    ⟨position, hrun⟩ | ⟨cs, s', hrun, hview, hdigits⟩
  · rw [hrun]
    intro h
    cases h
  · rw [hrun]
    rw [hview] at hs
    exact ⟨(List.suffix_append _ _).trans hs,
      (List.prefix_append _ _).isInfix.trans hs.isInfix, hdigits⟩

@[grind ←]
theorem stays_takeWhile (holds : CodePoint → Bool) (n : Nat) :
    Stays pattern (Read.takeWhile holds n) := by
  intro s hs
  rcases takeWhile_cases holds n s with ⟨position, hrun⟩ | ⟨cs, s', hrun, hview, _⟩
  · rw [hrun]
    intro h
    cases h
  · rw [hrun]
    rw [hview] at hs
    exact ⟨(List.suffix_append _ _).trans hs, trivial⟩

@[grind ←]
theorem stays_takeUntilFrom (terminator : CodePoint) (what : Text) (fuel : Nat)
    (name : List CodePoint) :
    Stays pattern (takeUntilFrom terminator what fuel name) := by
  induction fuel generalizing name with
  | zero => exact stays_pure _
  | succ fuel ih =>
    unfold takeUntilFrom
    grind

@[grind ←]
theorem stays_takeUntil (terminator : CodePoint) (what : Text) :
    Stays pattern (takeUntil terminator what) :=
  stays_bind stays_get fun _ => stays_takeUntilFrom terminator what _ _

/-! ## §4 Groups -/

@[grind ←]
theorem stays_isClosed (group : Nat) : Stays pattern (isClosed group) :=
  stays_bind stays_get fun _ => stays_pure _

@[grind ←]
theorem stays_requireBeforeLookbehind (group : Nat) :
    Stays pattern (requireBeforeLookbehind group) := by
  unfold requireBeforeLookbehind
  grind

@[grind ←]
theorem stays_referTo (group back : Nat) : Stays pattern (referTo group back) := by
  unfold referTo
  grind

@[grind ←]
theorem stays_openGroup (name : Option Text) : Stays pattern (openGroup name) := by
  unfold openGroup
  cases name with
  | none =>
    refine Gives.bind gives_get fun s hs => stays_bind ?_ fun _ => stays_pure _
    exact stays_set hs
  | some name =>
    refine Gives.bind gives_get fun s hs => ?_
    dsimp only
    split
    · exact stays_bind (stays_refuse _ _) fun _ => stays_pure _
    · exact stays_bind (stays_set hs) fun _ => stays_pure _

@[grind ←]
theorem stays_closeGroup (group : Nat) (width : Width) : Stays pattern (closeGroup group width) :=
  stays_modify fun _ => rfl

@[grind ←]
theorem stays_noteCondition (group position : Nat) :
    Stays pattern (noteCondition group position) := by
  apply stays_modify
  intro s
  split <;> rfl

/-! ## §5 Escapes and sets -/

@[grind ←]
theorem stays_readHex (c : CodePoint) (n : Nat) : Stays pattern (readHex c n) := by
  unfold readHex
  grind

@[grind ←]
theorem stays_readNamed : Stays pattern readNamed := by
  unfold readNamed
  grind

@[grind ←]
theorem stays_readCodeEscape (c : CodePoint) : Stays pattern (readCodeEscape c) := by
  unfold readCodeEscape
  grind

@[grind ←]
theorem stays_readOctal (first : CodePoint) (n : Nat) : Stays pattern (readOctal first n) := by
  unfold readOctal
  grind

@[grind ←]
theorem stays_readSetEscape (c : CodePoint) : Stays pattern (readSetEscape c) := by
  unfold readSetEscape
  grind

@[grind ←]
theorem stays_readNumbered (c : CodePoint) : Stays pattern (readNumbered c) := by
  have hrefer : ∀ digits : List CodePoint, Stays pattern (do
      let group := valueOf 10 digits
      if group < (← get).widths.length then referTo group (digits.length + 1)
      else refuse (.invalidReference group) digits.length) := by
    intro digits
    grind
  unfold readNumbered
  refine stays_bind stays_get fun s => ?_
  split
  · split
    · refine stays_bind stays_advance fun _ => stays_bind stays_get fun s => ?_
      split
      · split
        · grind
        · exact hrefer _
      · exact hrefer _
    · exact hrefer _
  · exact hrefer _

@[grind ←]
theorem stays_readEscape (c : CodePoint) : Stays pattern (readEscape c) := by
  unfold readEscape
  grind

@[grind ←]
theorem stays_readMember (t : Token) : Stays pattern (readMember t) := by
  unfold readMember
  grind

@[grind ←]
theorem stays_readMembers (start fuel : Nat) (members : List Member) :
    Stays pattern (readMembers start fuel members) := by
  induction fuel generalizing members with
  | zero => exact stays_pure _
  | succ fuel ih =>
    unfold readMembers
    refine stays_bind stays_take fun t => ?_
    split
    · grind
    · split
      · exact stays_pure _
      · refine stays_bind (stays_readMember _) fun first =>
          stays_bind (stays_accept _) fun dash => ?_
        split
        · refine stays_bind stays_take fun u => ?_
          split <;> grind
        · exact ih _

@[grind ←]
theorem stays_readSet : Stays pattern readSet := by
  unfold readSet
  grind

/-! ## §6 Repetitions -/

/-- A number is found too large only if it is. -/
theorem stays_readNumber {digits : List CodePoint} (h : IsRow pattern digits) :
    Stays pattern (readNumber digits) := by
  unfold readNumber
  split
  · exact stays_throw (by simp)
  · next n hread =>
    have hvalue : n = Text.digitsValue digits := by
      unfold Text.readNat at hread
      split at hread
      · exact (Except.ok.inj hread).symm
      · cases hread
    split
    · exact stays_pure _
    · next hlarge =>
      -- This is the only place where the fault arises.
      intro s hs _
      exact ⟨digits, h.1, h.2, hvalue ▸ Nat.le_of_not_lt hlarge⟩

@[grind ←]
theorem stays_readCount : Stays pattern readCount := by
  unfold readCount
  refine Gives.bind gives_get fun start hstart => ?_
  refine stays_bind stays_position fun here => ?_
  split
  · exact stays_pure none
  refine Gives.bind gives_takeAll fun low hlow => ?_
  -- What comes after the two rows of digits gives up, or reads them as numbers.
  have hafter : ∀ high, IsRow pattern high → Stays pattern (do
      if !(← accept '\x7d') then
        set start
        return none
      let least ← if low.isEmpty then pure 0 else readNumber low
      if high.isEmpty then return some (least, none)
      let greatest ← readNumber high
      if greatest < least then refuse .leastAboveGreatest ((← position) - here)
      return some (least, some greatest)) := by
    intro high hhigh
    have hlow' := stays_readNumber hlow
    have hhigh' := stays_readNumber hhigh
    have hset := stays_set hstart
    grind
  refine stays_bind (stays_accept _) fun comma => ?_
  dsimp only at hafter ⊢
  split
  · exact Gives.bind gives_takeAll hafter
  · exact Gives.bind (gives_pure hlow) hafter

@[grind ←]
theorem stays_readMode : Stays pattern readMode := by
  unfold readMode
  grind

@[grind ←]
theorem stays_repeatLast (start least : Nat) (greatest : Option Nat) (items : List (Tree Atom)) :
    Stays pattern (repeatLast start least greatest items) := by
  unfold repeatLast
  grind

/-! ## §7 Opening parentheses -/

@[grind ←]
theorem stays_flagOf (t : Token) (missing : Cause) : Stays pattern (flagOf t missing) := by
  unfold flagOf
  grind

@[grind ←]
theorem stays_readFlagsOn (fuel : Nat) (on : Flags) (t : Token) :
    Stays pattern (readFlagsOn fuel on t) := by
  induction fuel generalizing on t with
  | zero => exact stays_pure _
  | succ fuel ih =>
    unfold readFlagsOn
    grind

@[grind ←]
theorem stays_readFlagsOff (fuel : Nat) (off : Flags) (t : Token) :
    Stays pattern (readFlagsOff fuel off t) := by
  induction fuel generalizing off t with
  | zero => exact stays_pure _
  | succ fuel ih =>
    unfold readFlagsOff
    grind

@[grind ←]
theorem stays_readFlags (t : Token) : Stays pattern (readFlags t) := by
  unfold readFlags
  refine stays_bind stays_get fun s => ?_
  -- Whether there are flags to turn on or not, the rest of the reader is the same.
  have hjoin : ∀ {β : Type} {f : Flags × Token → Read β} (fuel : Nat),
      (∀ turned, Stays pattern (f turned)) →
      Stays pattern (if t = .plain '-' then pure (Flags.plain, t) >>= f
        else readFlagsOn fuel .plain t >>= f) := by
    intro β f fuel hf
    split
    · exact stays_bind (stays_pure _) hf
    · exact stays_bind (stays_readFlagsOn _ _ _) hf
  refine hjoin _ ?_
  rintro ⟨on, mark⟩
  dsimp only
  split
  · exact stays_bind (stays_modify fun _ => rfl) fun _ => stays_pure none
  · grind

@[grind ←]
theorem stays_skipComment (start fuel : Nat) : Stays pattern (skipComment start fuel) := by
  induction fuel with
  | zero => exact stays_pure _
  | succ fuel ih =>
    unfold skipComment
    grind

@[grind ←]
theorem stays_readGroupName (terminator : CodePoint) :
    Stays pattern (readGroupName terminator) := by
  unfold readGroupName
  grind

@[grind ←]
theorem stays_groupNamed (name : Text) : Stays pattern (groupNamed name) := by
  unfold groupNamed
  grind

@[grind ←]
theorem stays_readCondition : Stays pattern readCondition := by
  unfold readCondition
  refine stays_bind (stays_takeUntil _ _) fun chars => ?_
  dsimp only
  split
  · grind
  · split <;> grind

@[grind ←]
theorem stays_readOpening (start : Nat) (nothingBefore : Bool) :
    Stays pattern (readOpening start nothingBefore) := by
  unfold readOpening
  refine stays_bind (stays_accept _) fun found => ?_
  split
  · exact stays_pure _
  refine stays_bind stays_take fun t => ?_
  split
  -- The end of the pattern, a name, a plain group, a comment, and the two marks that look ahead.
  · grind
  · grind
  · grind
  · grind
  · grind
  · grind
  -- A look-behind has a second mark.
  · refine stays_bind stays_take fun t => ?_
    split <;> grind
  -- A condition and an atomic group.
  · grind
  · grind
  -- Flags, for a group or for the whole pattern.
  · dsimp only
    split <;> split <;> grind

/-! ## §8 Sequences and alternatives -/

@[grind ←]
theorem stays_skipLine (fuel : Nat) : Stays pattern (skipLine fuel) := by
  induction fuel with
  | zero => exact stays_pure _
  | succ fuel ih =>
    unfold skipLine
    grind

@[grind ←]
theorem stays_closeBody (start : Nat) : Stays pattern (closeBody start) := by
  unfold closeBody
  grind

/-- Alternatives and sequences are read together, so they are followed together, by induction on the
fuel that they share. -/
theorem stays_read (fuel : Nat) :
    (∀ nested verbose choices, Stays pattern (readChoices fuel nested verbose choices)) ∧
    (∀ verbose first items, Stays pattern (readItems fuel verbose first items)) := by
  induction fuel with
  | zero => exact ⟨fun _ _ _ => stays_refuse _ _, fun _ _ _ => stays_refuse _ _⟩
  | succ fuel ih =>
    obtain ⟨hchoices, hitems⟩ := ih
    refine ⟨fun nested verbose choices => ?_, fun verbose first items => ?_⟩
    · unfold readChoices
      refine stays_bind (hitems _ _ _) fun read => stays_bind (stays_accept _) fun more => ?_
      split
      · exact stays_bind stays_get fun s => hchoices _ _ _
      · exact stays_pure _
    · unfold readItems
      refine stays_bind stays_get fun s => ?_
      split
      -- At the end of a sequence nothing more is read.
      · exact stays_pure _
      · exact stays_pure _
      · exact stays_pure _
      refine stays_bind stays_position fun start => stays_bind stays_advance fun _ => ?_
      split
      -- What a verbose pattern ignores is passed.
      · exact hitems _ _ _
      split
      · grind
      split
      -- An escape, a set, and the three characters that stand for places.
      · grind
      · grind
      · grind
      · grind
      · grind
      -- The three marks of repetition.
      · grind
      · grind
      · grind
      -- A repetition in braces, or a brace that stands for itself.
      · refine stays_bind stays_readCount fun count => ?_
        split <;> grind
      · refine stays_bind (stays_readOpening _ _) fun opening => ?_
        split
        -- Flags alone, a reference, and the three kinds of groups.
        · grind
        · grind
        · grind
        · grind
        · grind
        · next behind negated =>
          -- The book of groups remembers the look-behind while its body is read.
          have hbook : ∀ f : State → Option Nat,
              Stays pattern (modify fun s => { s with lookbehind := f s } : Read Unit) :=
            fun _ => stays_modify fun _ => rfl
          have hbody : ∀ outer, Stays pattern (do
              let body ← readChoices fuel true verbose []
              modify fun s => { s with lookbehind := outer }
              closeBody start
              let body := Tree.ofList body
              let width := if behind then some body.width else none
              readItems fuel verbose first (.look width negated body :: items)) := fun outer =>
            stays_bind (hchoices _ _ _) fun body => stays_bind (hbook _) fun _ =>
              stays_bind (stays_closeBody _) fun _ => hitems _ _ _
          refine stays_bind stays_get fun s => ?_
          dsimp only at hbody ⊢
          split
          · exact stays_bind (hbook _) fun _ => hbody _
          · exact hbody _
        -- A condition, and last a character that stands for itself.
        · grind
      · grind

/-! ## §9 Whole patterns -/

theorem stays_readWhole (length : Nat) : Stays pattern (readWhole length) := by
  unfold readWhole
  refine stays_bind stays_advance fun _ => stays_bind stays_get fun outer =>
    stays_bind ((stays_read _).1 _ _ _) fun items => stays_bind stays_get fun s => ?_
  -- What is left are complaints about the pattern as a whole.
  dsimp only
  split
  · exact stays_throw_bind (by simp) _
  · split
    · exact stays_refuse_bind _ _ _
    · split
      · exact stays_throw (by simp)
      · exact stays_pure _

/-- Resolving the flags of a tree counts nothing. -/
theorem avoids_resolve (t : Tree Atom) (flags : Flags) :
    Avoids .repetitionTooLarge (t.resolve flags) := by
  induction t generalizing flags with
  | empty => exact avoids_pure _
  | leaf a => exact avoids_pure _
  | seq t u iht ihu =>
    unfold Tree.resolve
    grind
  | alt t u iht ihu =>
    unfold Tree.resolve
    grind
  | group index on off body ih =>
    unfold Tree.resolve
    grind
  | atomic body ih =>
    unfold Tree.resolve
    grind
  | iterate mode least greatest body ih =>
    unfold Tree.resolve
    grind
  | look behind negated body ih =>
    unfold Tree.resolve
    cases behind with
    | none => exact avoids_bind (ih flags) fun _ => avoids_pure _
    | some width => grind
  | conditional g yes no ihyes ihno =>
    unfold Tree.resolve
    grind

/-- The reader refuses a repetition number as too large only if it is written in the pattern. -/
theorem hasLargeNumber_of_readPattern {pattern : List CodePoint} {flags : Flags}
    (h : readPattern pattern flags = .error .repetitionTooLarge) : HasLargeNumber pattern := by
  unfold readPattern at h
  dsimp only at h
  have hstays : Stays pattern (readWhole pattern.length) := stays_readWhole _
  have hwhole := hstays ⟨none, pattern, 0, flags, [], [none], none, []⟩ (List.suffix_refl _)
  cases hrun : readWhole pattern.length ⟨none, pattern, 0, flags, [], [none], none, []⟩ with
  | ok p =>
    rw [hrun] at h
    cases h
  | error e =>
    rw [hrun] at h hwhole
    exact hwhole (Except.error.inj h)

/-- A pattern is refused because a repetition number is too large only if one is written in it. -/
theorem hasLargeNumber_of_compile {pattern : Text}
    (h : compile pattern = .error .repetitionTooLarge) : HasLargeNumber pattern.toList := by
  unfold compile at h
  cases hread : readPattern pattern.toList (smartFlags pattern.toList) with
  | error e =>
    rw [hread] at h
    cases Except.error.inj h
    exact hasLargeNumber_of_readPattern hread
  | ok p =>
    obtain ⟨tree, flags⟩ := p
    rw [hread] at h
    have hresolve : (tree.resolve flags >>= fun t => pure ⟨t⟩ : Except Error Pattern)
        = .error .repetitionTooLarge := h
    exact absurd hresolve (avoids_bind (avoids_resolve tree flags) fun _ => avoids_pure _)

end Pattern

end LogViewer
