import LogViewer.Feed
import LogViewer.Proofs.Lists
import LogViewer.Proofs.Outcomes
import Mathlib.Data.List.Basic
import Mathlib.Data.List.TakeWhile
import Mathlib.Tactic.IntervalCases

/-!
# Pieces of log lines

What the readers of the pieces of a log line give, and when: digits, white space, date and time, the
letters of levels, the line ends, and the process numbers in the text of the activity manager. Each
piece is read with the rest of the line behind it.

## Main definitions

- `Text.IsNumber`: a row of decimal digits
- `Text.tooLong?`: why a number cannot be read
- `ProcessEvent.told?`: the process number that a line tells
- `LogLine.IsGap`: white space between two pieces
- `LogLine.IsDate`, `LogLine.IsTime`
- `LogLine.letters`: the letters of levels

## Main statements

- `LogLine.digits?_eq_some_iff`, `LogLine.blanks?_eq_some_iff`, `LogLine.date?_eq_some_iff`,
  `LogLine.time?_eq_some_iff`: what the pieces are
- `LogLine.trimRight_eq_iff`, `LogLine.withoutLineEnd_eq_iff`: what is cut off an end
- `Processes.learn_error_iff`: names cannot be learnt from a number that is too long
-/

namespace LogViewer

/-! ## §1 Numbers -/

namespace Text

/-- A row of at least one decimal digit. -/
def IsNumber (digits : List CodePoint) : Prop :=
  digits ≠ [] ∧ ∀ c ∈ digits, isDecimal c = true

/-- White space holds no digit. -/
theorem isDecimal_of_isBlank {c : CodePoint} (h : isBlank c = true) : isDecimal c = false := by
  unfold isBlank at h
  unfold isDecimal
  generalize c.toNat = code at h ⊢
  simp only [isBlankCode, Bool.or_eq_true, Bool.and_eq_true, decide_eq_true_eq, beq_iff_eq] at h
  have hsmall : (9 ≤ code ∧ code ≤ 13) ∨ (28 ≤ code ∧ code ≤ 32) ∨ code = 0x85 ∨ code = 0xa0 ∨
      code = 0x1680 ∨ (0x2000 ≤ code ∧ code ≤ 0x200a) ∨ code = 0x2028 ∨ code = 0x2029 ∨
      code = 0x202f ∨ code = 0x205f ∨ code = 0x3000 := by omega
  -- There are only 29 of them, and each is looked up in the table of digits.
  rcases hsmall with ⟨_, _⟩ | ⟨_, _⟩ | rfl | rfl | rfl | ⟨_, _⟩ | rfl | rfl | rfl | rfl | rfl
  all_goals first | rfl | (interval_cases code <;> rfl)

/-- A digit is no white space. -/
theorem isBlank_of_isDecimal {c : CodePoint} (h : isDecimal c = true) : isBlank c = false := by
  rw [Bool.eq_false_iff]
  intro hblank
  rw [isDecimal_of_isBlank hblank] at h
  cases h

/-- White space before a number ends where its digits begin. -/
theorem IsNumber.isBlank_head {digits : List CodePoint} (h : IsNumber digits)
    (rest : List CodePoint) :
    ∀ c ∈ (digits ++ rest).head?, isBlank c = false := by
  intro c hc
  rw [List.head?_append_of_ne_nil _ h.1] at hc
  exact isBlank_of_isDecimal (h.2 c (List.mem_of_head? hc))

/-- The codes of the usual digits. -/
theorem toNat_of_isDigit {c : CodePoint} (h : c.isDigit = true) : 48 ≤ c.toNat ∧ c.toNat ≤ 57 := by
  cases c with
  | char c => simpa [CodePoint.isDigit, Char.isDigit, UInt32.le_iff_toNat_le] using h
  | surrogate n => cases h

theorem isDecimal_of_isDigit {c : CodePoint} (h : c.isDigit = true) : isDecimal c = true := by
  obtain ⟨hlow, hhigh⟩ := toNat_of_isDigit h
  refine List.any_eq_true.2 ⟨0x30, List.mem_cons_self .., ?_⟩
  simp only [Bool.and_eq_true, decide_eq_true_eq]
  omega

theorem digitValue?_of_isDigit {c : CodePoint} (h : c.isDigit = true) :
    digitValue? c.toNat = some (c.toNat - 48) := by
  obtain ⟨hlow, hhigh⟩ := toNat_of_isDigit h
  have hzero : (decide (0x30 ≤ c.toNat) && decide (c.toNat < 0x30 + 10)) = true := by
    simp only [Bool.and_eq_true, decide_eq_true_eq]
    omega
  have htable : digitZeros = 0x30 :: digitZeros.tail := rfl
  rw [digitValue?, htable, List.find?_cons, hzero]
  rfl

/-- The decimal text of a number consists of digits. -/
theorem isDigit_of_mem_decimal {n : Nat} {c : CodePoint} (h : c ∈ decimal n) :
    c.isDigit = true := by
  obtain ⟨digit, hdigit, rfl⟩ := List.mem_map.1 h
  exact Nat.isDigit_of_mem_toDigits (by decide) (by decide) hdigit

theorem isNumber_decimal (n : Nat) : IsNumber (decimal n) :=
  ⟨fun h => Nat.toDigits_ne_nil (List.map_eq_nil_iff.1 h), fun _ hc =>
    isDecimal_of_isDigit (isDigit_of_mem_decimal hc)⟩

/-- The decimal text of a number has its value. -/
theorem digitsValue_decimal (n : Nat) : digitsValue (decimal n) = n := by
  have hvalue : digitsValue (decimal n) = Nat.ofDigitChars 10 (Nat.toDigits 10 n) 0 := by
    rw [Nat.ofDigitChars_eq_foldl]
    unfold digitsValue decimal
    rw [List.foldl_map]
    refine List.foldl_ext _ _ _ fun sofar c hc => ?_
    rw [digitValue?_of_isDigit (isDigit_of_mem_decimal (List.mem_map_of_mem hc)), Nat.mul_comm]
    rfl
  rw [hvalue]
  exact Nat.ofDigitChars_ten_toDigits

/-- The fault of a number: it has too many digits. -/
def tooLong? (digits : List CodePoint) : Option TooManyDigits :=
  if digitLimit < digits.length then some ⟨digits.length⟩ else none

/-- A number is read unless it has too many digits. -/
theorem readNat_eq (digits : List CodePoint) :
    readNat digits = match tooLong? digits with
      | some e => .error e
      | none => .ok (digitsValue digits) := by
  unfold readNat tooLong?
  by_cases h : digits.length ≤ digitLimit
  · rw [if_pos h, if_neg (by omega)]
  · rw [if_neg h, if_pos (by omega)]

/-- A number that is not too long is read back from its decimal text. -/
theorem readNat_decimal {n : Nat} (h : (toString n).length ≤ digitLimit) :
    readNat (decimal n) = .ok n := by
  have hlength : (decimal n).length ≤ digitLimit := by
    rwa [← toList_toString, Text.toList_ofString, List.length_map, String.length_toList]
  rw [readNat, if_pos hlength, digitsValue_decimal]

end Text

open LogViewer.Text

/-- A row of characters of a class ends at the first other character. -/
theorem ProcessEvent.run?_eq_some_iff {holds : CodePoint → Bool} {s row rest : List CodePoint} :
    run? holds s = some (row, rest) ↔
      s = row ++ rest ∧ (row ≠ [] ∧ ∀ c ∈ row, holds c = true) ∧
        ∀ c ∈ rest.head?, holds c = false := by
  have hspan : run? holds s = some (row, rest) ↔
      row ≠ [] ∧ s.takeWhile holds = row ∧ s.dropWhile holds = rest := by
    unfold run?
    split
    · next hnil =>
      rw [hnil]
      constructor
      · intro h
        cases h
      · rintro ⟨hne, hrow, _⟩
        exact absurd hrow.symm hne
    · next hne =>
      rw [Option.some.injEq, Prod.mk.injEq]
      exact ⟨fun h => ⟨h.1 ▸ hne, h⟩, fun h => h.2⟩
  rw [hspan, span_eq_iff, and_left_comm, and_assoc]

namespace LogLine

/-- Digits are read up to the first other character. -/
theorem digits?_eq_some_iff {s ds rest : List CodePoint} :
    digits? s = some (ds, rest) ↔
      s = ds ++ rest ∧ IsNumber ds ∧ ∀ c ∈ rest.head?, isDecimal c = false :=
  ProcessEvent.run?_eq_some_iff

/-! ## §2 White space -/

/-- White space between two pieces. -/
def IsGap (s : List CodePoint) : Prop :=
  s ≠ [] ∧ ∀ c ∈ s, isBlank c = true

/-- A number before white space ends where the white space begins. -/
theorem IsGap.isDecimal_head {gap : List CodePoint} (h : IsGap gap) (rest : List CodePoint) :
    ∀ c ∈ (gap ++ rest).head?, isDecimal c = false := by
  intro c hc
  rw [List.head?_append_of_ne_nil _ h.1] at hc
  exact isDecimal_of_isBlank (h.2 c (List.mem_of_head? hc))

/-- White space is a row of characters, which is passed over. -/
theorem blanks?_eq (s : List CodePoint) :
    blanks? s = (ProcessEvent.run? isBlank s).map Prod.snd := by
  cases s with
  | nil => rfl
  | cons c s => cases hc : isBlank c <;> simp [blanks?, ProcessEvent.run?, dropBlanks, hc]

/-- White space is passed up to the first other character. -/
theorem blanks?_eq_some_iff {s rest : List CodePoint} :
    blanks? s = some rest ↔
      ∃ gap, s = gap ++ rest ∧ IsGap gap ∧ ∀ c ∈ rest.head?, isBlank c = false := by
  rw [blanks?_eq, Option.map_eq_some_iff]
  constructor
  · rintro ⟨⟨gap, _⟩, hread, rfl⟩
    exact ⟨gap, ProcessEvent.run?_eq_some_iff.1 hread⟩
  · rintro ⟨gap, h⟩
    exact ⟨(gap, rest), ProcessEvent.run?_eq_some_iff.2 h, rfl⟩

/-- White space that is not there is not dropped. -/
theorem dropBlanks_of_head {s : List CodePoint} (h : ∀ c ∈ s.head?, isBlank c = false) :
    dropBlanks s = s := by
  cases s with
  | nil => rfl
  | cons c s =>
    have hc : isBlank c = false := h c rfl
    simp [dropBlanks, hc]

/-- Spaces are dropped. -/
theorem dropBlanks_spaces (n : Nat) (s : List CodePoint) :
    dropBlanks (List.replicate n (' ' : CodePoint) ++ s) = dropBlanks s := by
  unfold dropBlanks
  rw [List.dropWhile_append_of_pos]
  intro c hc
  rw [List.eq_of_mem_replicate hc]
  decide

/-- A space is white space, with all that follows it. -/
theorem blanks?_space (s : List CodePoint) : blanks? (' ' :: s) = some (dropBlanks s) := rfl

/-- A single space is passed. -/
theorem blanks?_of_head {s : List CodePoint} (h : ∀ c ∈ s.head?, isBlank c = false) :
    blanks? (' ' :: s) = some s := by
  rw [blanks?_space, dropBlanks_of_head h]

/-- Spaces before digits are passed up to the digits. -/
theorem blanks?_padLeft (width : Nat) {number : Text} (hnumber : IsNumber number.toList)
    (rest : List CodePoint) :
    blanks? (' ' :: ((padLeft width number).toList ++ rest)) = some (number.toList ++ rest) := by
  unfold padLeft
  rw [blanks?_space, Text.toList_append, Text.toList_ofList, List.append_assoc,
    dropBlanks_spaces, dropBlanks_of_head (hnumber.isBlank_head rest)]

/-- White space is cut off the end up to another character. -/
theorem trimRight_eq_iff {s trimmed : List CodePoint} : trimRight s = trimmed ↔
    ∃ blanks, s = trimmed ++ blanks ∧ (∀ c ∈ blanks, isBlank c = true) ∧
      ∀ c ∈ trimmed.getLast?, isBlank c = false :=
  reverse_dropWhile_reverse_eq_iff

theorem trimRight_subset (s : List CodePoint) : trimRight s ⊆ s := by
  obtain ⟨blanks, hs, -⟩ := trimRight_eq_iff.1 (rfl : trimRight s = _)
  intro c hc
  rw [hs]
  exact List.mem_append_left blanks hc

theorem trimRight_trimRight (s : List CodePoint) : trimRight (trimRight s) = trimRight s := by
  obtain ⟨blanks, -, -, hlast⟩ := trimRight_eq_iff.1 (rfl : trimRight s = _)
  exact trimRight_eq_iff.2 ⟨[], (List.append_nil _).symm, List.forall_mem_nil _, hlast⟩

/-! ## §3 Date and time -/

theorem char?_eq_some_iff {c : CodePoint} {s rest : List CodePoint} :
    char? c s = some rest ↔ s = c :: rest := by
  cases s with
  | nil => simp [char?]
  | cons d s =>
    unfold char?
    by_cases hd : d = c <;> simp [hd]

/-- A date: month and day of two digits each. -/
def IsDate (s : List CodePoint) : Prop :=
  ∃ a b c d : CodePoint, s = [a, b, '-', c, d] ∧ [a, b, c, d].all isDecimal = true

/-- A time: hours, minutes and seconds of two digits each, and a fraction. -/
def IsTime (s : List CodePoint) : Prop :=
  ∃ (a b c d e f : CodePoint) (fraction : List CodePoint),
    s = [a, b, ':', c, d, ':', e, f, '.'] ++ fraction ∧
    [a, b, c, d, e, f].all isDecimal = true ∧ IsNumber fraction

theorem twoDigits?_eq_some_iff {s ds rest : List CodePoint} :
    twoDigits? s = some (ds, rest) ↔
      s = ds ++ rest ∧ ∃ a b, ds = [a, b] ∧ isDecimal a = true ∧ isDecimal b = true := by
  constructor
  · intro h
    unfold twoDigits? at h
    split at h
    · next a b rest' =>
      obtain ⟨hdigits, hread⟩ := Option.ite_none_right_eq_some.1 h
      cases hread
      rw [Bool.and_eq_true] at hdigits
      exact ⟨rfl, a, b, rfl, hdigits⟩
    · cases h
  · rintro ⟨rfl, a, b, rfl, ha, hb⟩
    simp [twoDigits?, ha, hb]

/-- A date is read off the front. -/
theorem date?_eq_some_iff {s date rest : List CodePoint} :
    date? s = some (date, rest) ↔ s = date ++ rest ∧ IsDate date := by
  simp only [date?, Option.bind_eq_bind, Option.bind_eq_some_iff, Prod.exists,
    twoDigits?_eq_some_iff, char?_eq_some_iff]
  constructor
  · rintro ⟨_, s₁, ⟨rfl, a, b, rfl, ha, hb⟩, s₂, rfl, _, s₃, ⟨rfl, c, d, rfl, hc, hd⟩, hread⟩
    cases hread
    exact ⟨rfl, a, b, c, d, rfl, by simp [ha, hb, hc, hd]⟩
  · rintro ⟨rfl, a, b, c, d, rfl, hdigits⟩
    simp only [List.all_cons, Bool.and_eq_true] at hdigits
    obtain ⟨ha, hb, hc, hd, -⟩ := hdigits
    exact ⟨[a, b], _, ⟨rfl, a, b, rfl, ha, hb⟩, _, rfl, [c, d], rest, ⟨rfl, c, d, rfl, hc, hd⟩, rfl⟩

/-- A time is read off the front, with all digits of its fraction. -/
theorem time?_eq_some_iff {s time rest : List CodePoint} :
    time? s = some (time, rest) ↔
      s = time ++ rest ∧ IsTime time ∧ ∀ c ∈ rest.head?, isDecimal c = false := by
  simp only [time?, Option.bind_eq_bind, Option.bind_eq_some_iff, Prod.exists,
    twoDigits?_eq_some_iff, char?_eq_some_iff, digits?_eq_some_iff]
  constructor
  · rintro ⟨_, s₁, ⟨rfl, a, b, rfl, ha, hb⟩, s₂, rfl, _, s₃, ⟨rfl, c, d, rfl, hc, hd⟩, s₄, rfl, _, s₅,
      ⟨rfl, e, f, rfl, he, hf⟩, s₆, rfl, fraction, s₇, ⟨rfl, hfraction, hrest⟩, hread⟩
    cases hread
    refine ⟨rfl, ⟨a, b, c, d, e, f, fraction, rfl, ?_, hfraction⟩, hrest⟩
    simp [ha, hb, hc, hd, he, hf]
  · rintro ⟨rfl, ⟨a, b, c, d, e, f, fraction, rfl, hdigits, hfraction⟩, hrest⟩
    simp only [List.all_cons, Bool.and_eq_true] at hdigits
    obtain ⟨ha, hb, hc, hd, he, hf, -⟩ := hdigits
    exact ⟨[a, b], _, ⟨rfl, a, b, rfl, ha, hb⟩, _, rfl, [c, d], _, ⟨rfl, c, d, rfl, hc, hd⟩, _, rfl,
      [e, f], _, ⟨rfl, e, f, rfl, he, hf⟩, _, rfl, fraction, rest, ⟨rfl, hfraction, hrest⟩, rfl⟩

/-- Date and time begin with digits, so white space before them ends there. -/
theorem IsTime.isBlank_head {time : List CodePoint} (h : IsTime time) (rest : List CodePoint) :
    ∀ c ∈ (time ++ rest).head?, isBlank c = false := by
  obtain ⟨a, b, c, d, e, f, fraction, rfl, hdigits, _⟩ := h
  rintro x ⟨⟩
  exact isBlank_of_isDecimal (List.all_eq_true.1 hdigits a (List.mem_cons_self ..))

/-! ## §4 Levels -/

/-- The letters of the levels. -/
def letters : List CodePoint := Text.toList "VDIWEFA"

theorem letter_cases {c : CodePoint} (h : c ∈ letters) :
    c = 'V' ∨ c = 'D' ∨ c = 'I' ∨ c = 'W' ∨ c = 'E' ∨ c = 'F' ∨ c = 'A' := by
  simpa [letters] using h

/-- The letters that stand for a level. -/
theorem isSome_levelOf?_iff {c : CodePoint} : (levelOf? c).isSome = true ↔ c ∈ letters := by
  constructor
  · intro h
    unfold levelOf? at h
    split at h
    all_goals first | exact absurd h (by decide) | decide
  · intro h
    rcases letter_cases h with rfl | rfl | rfl | rfl | rfl | rfl | rfl <;> rfl

/-- The letter of a level is neither white space nor a digit. -/
theorem isBlank_letter {c : CodePoint} (h : c ∈ letters) :
    isBlank c = false ∧ isDecimal c = false := by
  rcases letter_cases h with rfl | rfl | rfl | rfl | rfl | rfl | rfl <;> decide

/-! ## §5 Line ends -/

/-- A line feed is no digit, and so it is in no row of digits. -/
theorem not_mem_of_forall_isDecimal {s : List CodePoint} (h : ∀ c ∈ s, isDecimal c = true) :
    ('\n' : CodePoint) ∉ s := by
  intro hmem
  exact absurd (h '\n' hmem) (by decide)

theorem oneLine_iff {s : List CodePoint} : oneLine s = true ↔ ('\n' : CodePoint) ∉ s := by
  unfold oneLine
  simp

/-- Line ends behind a line are cut off, and nothing else. -/
theorem withoutLineEnd_eq_iff {s line : List CodePoint} : withoutLineEnd s = line ↔
    ∃ ending, s = line ++ ending ∧ (∀ c ∈ ending, c = '\r' ∨ c = '\n') ∧
      ∀ c ∈ line.getLast?, c ≠ '\r' ∧ c ≠ '\n' := by
  unfold withoutLineEnd
  simp [reverse_dropWhile_reverse_eq_iff]

end LogLine

/-! ## §6 Process numbers that are told -/

namespace ProcessEvent

/-- The process number of an event. -/
def digits : ProcessEvent → List CodePoint
  | started pid _ => pid
  | died pid => pid

/-- The process number that a line with a tag and a text tells, if it is of the activity
manager. -/
def told? (tag text : List CodePoint) : Option (List CodePoint) :=
  if tag = teller.toList then (read text).map digits else none

theorem after?_append (beginning rest : List CodePoint) :
    after? beginning (beginning ++ rest) = some rest := by
  simp [after?]

/-- A death line tells the number between its parentheses. -/
theorem read_death {name pid : List CodePoint} (hne : name ≠ [])
    (hname : ∀ c ∈ name, isNameChar c = true) (hpid : IsNumber pid) :
    read (Text.toList "Process "
      ++ (name ++ (Text.toList " (pid " ++ (pid ++ Text.toList ") has died"))))
      = some (.died pid) := by
  have hrun : run? isNameChar (name ++ (Text.toList " (pid " ++ (pid ++ Text.toList ") has died")))
      = some (name, (Text.toList " (pid ") ++ (pid ++ Text.toList ") has died")) := by
    refine run?_eq_some_iff.2 ⟨rfl, ⟨hne, hname⟩, ?_⟩
    rintro c ⟨⟩
    decide
  have hdigits : LogLine.digits? (pid ++ Text.toList ") has died")
      = some (pid, (Text.toList ") has died")) := by
    refine LogLine.digits?_eq_some_iff.2 ⟨rfl, hpid, ?_⟩
    rintro c ⟨⟩
    decide
  have hdied : after? (Text.toList ") has died") (Text.toList ") has died") = some [] := by decide
  -- Neither form of a start fits the first word.
  have hnostart : ∀ rest, after? (Text.toList "Start proc ")
      (Text.toList "Process " ++ rest) = none :=
    fun rest => rfl
  have hnumbered : ∀ rest, numberedStart? (Text.toList "Process " ++ rest) = none := by
    intro rest
    rw [numberedStart?, hnostart]
    rfl
  have hnamed : ∀ rest, namedStart? (Text.toList "Process " ++ rest) = none := by
    intro rest
    rw [namedStart?, hnostart]
    rfl
  rw [read, hnumbered, hnamed, death?, after?_append, Option.bind_eq_bind, Option.bind_some, hrun]
  dsimp only [Option.bind_eq_bind, Option.bind_some]
  rw [after?_append, Option.bind_some, hdigits]
  dsimp only [Option.bind_some]
  rw [hdied]
  rfl

end ProcessEvent

/-- Learning names fails exactly if the number that is told has too many digits. -/
theorem Processes.learn_error_iff {p : Processes} {tag text : List CodePoint} {e : TooManyDigits} :
    p.learn tag text = .error e ↔ (ProcessEvent.told? tag text).bind tooLong? = some e := by
  unfold learn ProcessEvent.told?
  split
  · cases ProcessEvent.read text with
    | none => simp
    | some event =>
      have hpid : p.apply event = .error e ↔ readNat event.digits = .error e := by
        cases event with
        | started pid name => exact map_eq_error_iff
        | died pid => exact map_eq_error_iff
      rw [Option.map_some, Option.bind_some]
      dsimp only
      rw [hpid, readNat_eq]
      cases tooLong? event.digits <;> simp
  · simp

/-- Names are learnt from a line exactly if the number that it tells, if any, is not too long. -/
theorem Processes.learn_ok_iff {p : Processes} {tag text : List CodePoint} :
    (∃ p', p.learn tag text = .ok p') ↔
      ∀ digits, ProcessEvent.told? tag text = some digits → digits.length ≤ digitLimit := by
  have hfault : (∃ p', p.learn tag text = .ok p') ↔ ∀ e, p.learn tag text ≠ .error e := by
    cases p.learn tag text <;> simp
  simp only [hfault, ne_eq, learn_error_iff]
  cases ProcessEvent.told? tag text with
  | none => simp
  | some digits =>
    simp [tooLong?]

end LogViewer
