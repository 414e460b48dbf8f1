import LogViewer.Pattern.Basic
import LogViewer.Proofs.LogLine.Shapes
import LogViewer.Proofs.Pattern.Committed

/-!
# Reading is matching

The two shapes of a line are also given by regular expressions, whose first match decides about
dates, tags and texts. Most of their parts are committed. Three are not: white space before a tag
can belong to the gap behind the level or to the tag, white space behind it to the tag or to the gap
before the colon, and a tag can end at any colon. The readers of `LogLine` take the same pieces as
the first match, for every line.

## Main definitions

- `timedPattern`, `briefPattern`: the regular expressions
- `timedParts`, `briefParts`: what they are compiled to
- `timedLine`, `briefLine`: the line of a match, from its groups
- `firstMatch?`: the first match of a pattern

## Main statements

- `run_tagParts`, `run_tag_bracketParts`: where the tag of the first match ends
- `run_gap_tagParts`: white space before a tag is left to the gap
- `run_timedParts`, `run_briefParts`: the first match gives what is read of a text
- `read_eq_firstMatch?`: a line is read as the patterns match it
-/

namespace LogViewer.LogLine

open LogViewer.Pattern LogViewer.Text

/-! ## §1 The patterns -/

/-- The shape with date and time. -/
def timedPattern : Text :=
  r"^(?P<date>\d\d-\d\d)\s+(?P<time>\d\d:\d\d:\d\d\.\d+)\s+" ++
  r"(?P<pid>\d+)\s+(?P<tid>\d+)\s+(?P<level>[VDIWEFA])\s+" ++
  r"(?P<tag>.*?)\s*: (?P<text>.*)$"

/-- The brief shape. -/
def briefPattern : Text :=
  r"^(?P<level>[VDIWEFA])/(?P<tag>.+?)\( *(?P<pid>\d+)\): (?P<text>.*)$"

/-! ## §2 Their parts -/

/-- A decimal digit of any script. -/
def digitTest : CharTest := .set false none [.kind .digit false false]

/-- White space. -/
def blankTest : CharTest := .set false none [.kind .space false false]

/-- The letter of a level. -/
def letterTest : CharTest := .set false none (letters.map fun c => .exact c.toNat c.toNat)

/-- A given character. -/
def charTest (c : CodePoint) : CharTest := .code false c.toNat

@[simp] theorem holds_digitTest (c : CodePoint) : digitTest.holds c.toNat = isDecimal c := by
  simp [digitTest, CharTest.holds, Part.holds, Kind.holds, isDecimal]

@[simp] theorem holds_blankTest (c : CodePoint) : blankTest.holds c.toNat = isBlank c := by
  simp [blankTest, CharTest.holds, Part.holds, Kind.holds, isBlank]

@[simp] theorem holds_charTest (c d : CodePoint) : (charTest c).holds d.toNat = (d == c) := by
  rw [Bool.eq_iff_iff]
  simp [charTest, CharTest.holds, CodePoint.toNat_inj]

@[simp] theorem holds_letterTest (c : CodePoint) :
    letterTest.holds c.toNat = true ↔ c ∈ letters := by
  have hparts : letterTest.holds c.toNat
      = letters.any fun d => decide (d.toNat ≤ c.toNat) && decide (c.toNat ≤ d.toNat) := by
    simp [letterTest, CharTest.holds, Part.holds, Function.comp_def]
  rw [hparts, List.any_eq_true]
  simp only [Bool.and_eq_true, decide_eq_true_eq]
  constructor
  · rintro ⟨d, hd, hle⟩
    have hcode : d.toNat = c.toNat := by omega
    rwa [← CodePoint.toNat_inj.1 hcode]
  · intro h
    exact ⟨c, h, Nat.le_refl _, Nat.le_refl _⟩

/-- Tests for given characters pass these characters. -/
theorem passes_map_charTest_iff {chars front : List CodePoint} :
    Passes (chars.map charTest) front ↔ front = chars := by
  induction chars generalizing front with
  | nil => simp
  | cons c chars ih => simp [ih]

/-- What passes the test of every character but a line feed is on one line. -/
theorem forall_noLineFeed_iff {front : List CodePoint} :
    (∀ c ∈ front, CharTest.noLineFeed.holds c.toNat = true) ↔ ('\n' : CodePoint) ∉ front := by
  simp only [holds_noLineFeed, bne_iff_ne]
  exact ⟨fun h hmem => h '\n' hmem rfl, fun h c hc heq => h (heq ▸ hc)⟩

/-- A group of some parts. -/
def group (g : Nat) (parts : List (Pattern.Tree Step)) : Pattern.Tree Step :=
  .group (some g) .plain .plain (.ofList parts)

/-- The tests for a date. -/
def dateTests : List CharTest := [digitTest, digitTest, charTest '-', digitTest, digitTest]

/-- The tests for a time up to its fraction. -/
def timeTests : List CharTest :=
  [digitTest, digitTest, charTest ':', digitTest, digitTest, charTest ':', digitTest, digitTest,
    charTest '.']

/-- The rest of a line in a group. -/
def lineParts (g : Nat) : List (Pattern.Tree Step) :=
  [group g [many 0 .noLineFeed], .leaf (.place .lastLineEnd)]

/-- Given characters, and behind them the rest of a line in a group. -/
def textParts (chars : List CodePoint) (g : Nat) : List (Pattern.Tree Step) :=
  (chars.map charTest).map one ++ lineParts g

/-- White space before a colon and a space, and the text behind them. -/
def colonParts : List (Pattern.Tree Step) := many 0 blankTest :: textParts [':', ' '] 7

/-- A tag with what stands behind it on the line. -/
def tagParts : List (Pattern.Tree Step) := group 6 [few 0 .noLineFeed] :: colonParts

/-- The parts of the shape with date and time. -/
def timedParts : List (Pattern.Tree Step) :=
  .leaf (.place .textStart) ::
    group 1 (dateTests.map one) :: many 1 blankTest ::
    group 2 (timeTests.map one ++ [many 1 digitTest]) :: many 1 blankTest ::
    group 3 [many 1 digitTest] :: many 1 blankTest ::
    group 4 [many 1 digitTest] :: many 1 blankTest ::
    group 5 [one letterTest] :: many 1 blankTest :: tagParts

/-- A process number in parentheses, and the text behind it. -/
def bracketParts : List (Pattern.Tree Step) :=
  [one (charTest '('), many 0 (charTest ' ')] ++
    group 3 [many 1 digitTest] :: textParts [')', ':', ' '] 4

/-- The parts of the brief shape. -/
def briefParts : List (Pattern.Tree Step) :=
  .leaf (.place .textStart) :: group 1 [one letterTest] :: one (charTest '/') ::
    group 2 [few 1 .noLineFeed] :: bracketParts

theorem tree_of_toOption {pattern : Text} {t : Pattern.Tree Step}
    (h : (compile pattern).toOption.map (·.tree) = some t) : compile pattern = .ok ⟨t⟩ := by
  cases hp : compile pattern with
  | error e =>
    rw [hp] at h
    cases h
  | ok p =>
    rw [hp] at h
    cases h
    rfl

theorem compile_timedPattern : compile timedPattern = .ok ⟨.ofList timedParts⟩ :=
  tree_of_toOption (by decide +kernel)

theorem compile_briefPattern : compile briefPattern = .ok ⟨.ofList briefParts⟩ :=
  tree_of_toOption (by decide +kernel)

/-! ## §3 Pieces -/

section Matching

variable {text : Subject} {q r : Progress} {s front rest : List CodePoint}
    {groups : List (Nat × List CodePoint)}

/-- What begins with a group rejects what the parts of the group reject. -/
theorem rejects_group {g : Nat} {body parts : List (Pattern.Tree Step)} {bad : CodePoint → Bool}
    (h : Rejects text (.ofList body) bad) : Rejects text (.ofList (group g body :: parts)) bad :=
  Rejects.seq (Rejects.group h g .plain .plain)

/-- What begins with a given character rejects other characters. -/
theorem rejects_textParts {c : CodePoint} {chars : List CodePoint} {g : Nat}
    {bad : CodePoint → Bool}
    (h : bad c = false) : Rejects text (.ofList (textParts (c :: chars) g)) bad := by
  refine Rejects.seq (Rejects.one fun d hd => ?_)
  rw [holds_charTest, beq_eq_false_iff_ne]
  rintro rfl
  rw [h] at hd
  cases hd

theorem runs_blankTest_iff : Runs blankTest 1 front rest ↔
    IsGap front ∧ ∀ c ∈ rest.head?, isBlank c = false := by
  simp only [Runs, IsGap, holds_blankTest, ← List.length_pos_iff, and_assoc]
  rfl

theorem runs_digitTest_iff : Runs digitTest 1 front rest ↔
    IsNumber front ∧ ∀ c ∈ rest.head?, isDecimal c = false := by
  simp only [Runs, IsNumber, holds_digitTest, ← List.length_pos_iff, and_assoc]
  rfl

theorem passes_dateTests_iff : Passes dateTests front ↔ IsDate front := by
  simp only [dateTests, passes_cons_iff, passes_nil_iff, holds_digitTest, holds_charTest, beq_iff_eq]
  constructor
  · rintro ⟨a, _, ha, ⟨b, _, hb, ⟨_, _, rfl, ⟨c, _, hc, ⟨d, _, hd, rfl, rfl⟩, rfl⟩, rfl⟩, rfl⟩, rfl⟩
    exact ⟨a, b, c, d, rfl, by simp [ha, hb, hc, hd]⟩
  · rintro ⟨a, b, c, d, rfl, hdigits⟩
    simp only [List.all_cons, Bool.and_eq_true] at hdigits
    obtain ⟨ha, hb, hc, hd, -⟩ := hdigits
    exact ⟨a, _, ha, ⟨b, _, hb, ⟨'-', _, rfl, ⟨c, _, hc, ⟨d, _, hd, rfl, rfl⟩, rfl⟩, rfl⟩, rfl⟩, rfl⟩

theorem committed_date :
    Committed text (.ofList (dateTests.map one)) (fun front _ => IsDate front) Pattern.nothing :=
  Committed.congr (Committed.testRow dateTests) fun _ _ => passes_dateTests_iff

theorem committed_number : Committed text (.ofList [many 1 digitTest])
    (fun front rest => IsNumber front ∧ ∀ c ∈ rest.head?, isDecimal c = false)
    fun c => digitTest.holds c.toNat :=
  Committed.congr (Committed.single (Committed.many digitTest 1)) fun _ _ => runs_digitTest_iff

/-- A time is its hours, minutes and seconds with their signs, and its fraction. -/
theorem isTime_iff : IsTime front ↔
    ∃ row fraction, front = row ++ fraction ∧ Passes timeTests row ∧ IsNumber fraction := by
  simp only [timeTests, passes_cons_iff, passes_nil_iff, holds_digitTest, holds_charTest, beq_iff_eq]
  constructor
  · rintro ⟨a, b, c, d, e, f, fraction, rfl, hdigits, hfraction⟩
    simp only [List.all_cons, Bool.and_eq_true] at hdigits
    obtain ⟨ha, hb, hc, hd, he, hf, -⟩ := hdigits
    exact ⟨_, fraction, rfl, ⟨a, _, ha, ⟨b, _, hb, ⟨':', _, rfl, ⟨c, _, hc, ⟨d, _, hd, ⟨':', _, rfl,
      ⟨e, _, he, ⟨f, _, hf, ⟨'.', _, rfl, rfl, rfl⟩, rfl⟩, rfl⟩, rfl⟩, rfl⟩, rfl⟩, rfl⟩, rfl⟩, rfl⟩,
      hfraction⟩
  · rintro ⟨_, fraction, rfl, ⟨a, _, ha, ⟨b, _, hb, ⟨_, _, rfl, ⟨c, _, hc, ⟨d, _, hd, ⟨_, _, rfl,
      ⟨e, _, he, ⟨f, _, hf, ⟨_, _, rfl, rfl, rfl⟩, rfl⟩, rfl⟩, rfl⟩, rfl⟩, rfl⟩, rfl⟩, rfl⟩, rfl⟩,
      hfraction⟩
    exact ⟨a, b, c, d, e, f, fraction, rfl, by simp [ha, hb, hc, hd, he, hf], hfraction⟩

theorem committed_time : Committed text (.ofList (timeTests.map one ++ [many 1 digitTest]))
    (fun front rest => IsTime front ∧ ∀ c ∈ rest.head?, isDecimal c = false)
    fun c => digitTest.holds c.toNat := by
  refine Committed.congr (Committed.append (Committed.testRow timeTests)
    (Committed.single (Committed.many digitTest 1)) (Rejects.nothing _)) fun front rest => ?_
  simp only [Then, runs_digitTest_iff, isTime_iff]
  constructor
  · rintro ⟨row, fraction, rfl, hrow, hfraction, hrest⟩
    exact ⟨⟨row, fraction, rfl, hrow, hfraction⟩, hrest⟩
  · rintro ⟨⟨row, fraction, rfl, hrow, hfraction⟩, hrest⟩
    exact ⟨row, fraction, rfl, hrow, hfraction, hrest⟩

theorem committed_bracketStart : Committed text (.ofList [one (charTest '('), many 0 (charTest ' ')])
    (fun front rest => ∃ spaces : List CodePoint,
      front = .char '(' :: spaces ∧ (∀ c ∈ spaces, c = ' ') ∧
      ∀ c ∈ rest.head?, c ≠ ' ') fun c => (charTest ' ').holds c.toNat := by
  refine Committed.congr (Committed.append (Committed.testRow [charTest '('])
    (Committed.single (Committed.many (charTest ' ') 0)) (Rejects.nothing _)) fun front rest => ?_
  have hpasses : ∀ front,
      Passes ([('(' : CodePoint)].map charTest) front ↔ front = [('(' : CodePoint)] :=
    fun _ => passes_map_charTest_iff
  rw [List.map_singleton] at hpasses
  simp only [Then, hpasses, Runs, holds_charTest, beq_iff_eq, beq_eq_false_iff_ne]
  constructor
  · rintro ⟨_, spaces, rfl, rfl, -, hspaces, hrest⟩
    exact ⟨spaces, rfl, hspaces, hrest⟩
  · rintro ⟨spaces, rfl, hspaces, hrest⟩
    exact ⟨_, spaces, rfl, rfl, Nat.zero_le _, hspaces, hrest⟩

/-- A piece of a line is read in a group, and the white space behind it is passed. -/
theorem run_piece {read : List CodePoint → Option (List CodePoint × List CodePoint)}
    {takes : List CodePoint → List CodePoint → Prop} {bad : CodePoint → Bool}
    {body parts : List (Pattern.Tree Step)}
    {g : Nat} {line : Progress → Option LogLine}
    {next : List CodePoint × List CodePoint → List CodePoint → Option LogLine}
    (hq : Reached text q s groups) (hg : ∀ pair ∈ groups, pair.1 ≠ g)
    (hbody : Committed text (.ofList body) takes bad)
    (hread : ∀ s front rest, read s = some (front, rest) ↔ s = front ++ rest ∧ takes front rest)
    (hbad : ∀ c, bad c = true → isBlank c = false)
    (hparts : Rejects text (.ofList parts) fun c => blankTest.holds c.toNat)
    (hnext : ∀ front rest₁ rest₂ q', Reached text q' rest₂ ((g, front) :: groups) →
      ((Tree.ofList parts).run text q' some).bind line = next (front, rest₁) rest₂) :
    ((Tree.ofList (group g body :: many 1 blankTest :: parts)).run text q some).bind line
      = (read s).bind fun taken => (blanks? taken.2).bind (next taken) := by
  have hblanks : Rejects text (.ofList (many 1 blankTest :: parts)) bad :=
    Rejects.seq (Rejects.many Nat.one_pos fun c hc => by rw [holds_blankTest, hbad c hc])
  have hgap : ∀ s front rest, ProcessEvent.run? isBlank s = some (front, rest) ↔
      s = front ++ rest ∧ Runs blankTest 1 front rest := by
    intro s front rest
    rw [ProcessEvent.run?_eq_some_iff, runs_blankTest_iff]
    rfl
  rw [run_ofList_cons, group, hbody.run_group g .plain .plain hread (hblanks some), hq.ahead_eq,
    Option.bind_assoc]
  refine Option.bind_congr fun taken htaken => ?_
  obtain ⟨front, rest⟩ := taken
  obtain ⟨rfl, -⟩ := (hread _ _ _).1 htaken
  -- The gap takes all white space for good, as what follows cannot begin with any.
  have hcapture := hq.capture hg
  rw [run_ofList_cons, (Committed.many blankTest 1).run_eq hgap (hparts some), hcapture.ahead_eq,
    blanks?_eq, Option.bind_assoc, Option.bind_map]
  refine Option.bind_congr fun gap hgap' => ?_
  obtain ⟨blanks, rest'⟩ := gap
  obtain ⟨rfl, -⟩ := (hgap _ _ _).1 hgap'
  exact hnext front _ rest' _ hcapture.skip

/-- The letter of a level is read in a group. -/
theorem run_letter {parts : List (Pattern.Tree Step)} {g : Nat} {line : Progress → Option LogLine}
    {next : Level → Option LogLine} (hq : Reached text q s groups) (hg : ∀ pair ∈ groups, pair.1 ≠ g)
    (hnext : ∀ letter level rest q', s = letter :: rest → levelOf? letter = some level →
      Reached text q' rest ((g, [letter]) :: groups) →
      ((Tree.ofList parts).run text q' some).bind line = next level) :
    ((Tree.ofList (group g [one letterTest] :: parts)).run text q some).bind line
      = s.head?.bind fun letter => (levelOf? letter).bind next := by
  have hrun : (Tree.ofList (group g [one letterTest] :: parts)).run text q some
      = (one letterTest).run text (q.opened g) fun q' =>
          (Tree.ofList parts).run text (q'.closed g) some := rfl
  rw [hrun, run_one, Progress.ahead_opened, hq.ahead_eq]
  cases s with
  | nil => rfl
  | cons letter s =>
    have hholds : letterTest.holds letter.toNat = (levelOf? letter).isSome := by
      rw [Bool.eq_iff_iff, holds_letterTest, isSome_levelOf?_iff]
    have hletter : Reached text q ([letter] ++ s) _ := hq
    rw [List.head?_cons, Option.bind_some]
    dsimp only
    rw [hholds]
    cases hlevel : levelOf? letter with
    | none => rfl
    | some level => exact hnext letter level s _ rfl hlevel (hletter.capture hg)

/-! ## §4 The rest of a line -/

variable (hend : text.toList.getLast? ≠ some ('\n' : CodePoint))

include hend

/-- The end of a text that does not end with a line feed is where nothing is left. -/
theorem holds_lastLineEnd (hq : Reached text q s groups) :
    Place.lastLineEnd.holds text q.position = true ↔ s = [] := by
  have hle : q.position ≤ text.size := hq.inside
  have hnil : s = [] ↔ q.position = text.size := by
    rw [← hq.ahead_eq, ahead, List.drop_eq_nil_iff, Array.length_toList]
    omega
  have hlast : ¬ (q.position + 1 = text.size ∧ text[q.position]? = some ('\n' : CodePoint)) := by
    rintro ⟨hsize, hfeed⟩
    apply hend
    rw [List.getLast?_eq_getElem?, Array.length_toList, ← hsize, Array.getElem?_toList]
    exact hfeed
  simpa [Place.holds, hnil] using fun h₁ h₂ => absurd ⟨h₁, h₂⟩ hlast

/-- A group captures the rest of the line, if that is all that is left. -/
theorem run_lineParts (hq : Reached text q s groups) (g : Nat) :
    (Tree.ofList (lineParts g)).run text q some = some r ↔
    ('\n' : CodePoint) ∉ s ∧ r = q.capture g s.length := by
  have hrun : (Tree.ofList (lineParts g)).run text q some
      = (many 0 .noLineFeed).run text (q.opened g)
          fun q' => (Tree.leaf (.place .lastLineEnd)).run text (q'.closed g) some := rfl
  have hrefuses : Refuses text
      (fun q' => (Tree.leaf (.place .lastLineEnd)).run text (q'.closed g) some)
      fun c => CharTest.noLineFeed.holds c.toNat :=
    fun q' hq' => Rejects.lastLineEnd some (q'.closed g) hq'
  rw [hrun, Committed.many .noLineFeed 0 _ _ r hrefuses, Progress.ahead_opened, hq.ahead_eq]
  simp only [run_place, Option.ite_none_right_eq_some, Option.some.injEq]
  constructor
  · rintro ⟨front, rest, rfl, ⟨-, hfront, -⟩, hplaced, rfl⟩
    obtain rfl := (holds_lastLineEnd hend hq.skip).1 hplaced
    rw [List.append_nil]
    exact ⟨forall_noLineFeed_iff.1 hfront, rfl⟩
  · rintro ⟨hline, rfl⟩
    have hs : s = s ++ [] := (List.append_nil s).symm
    have hall : Reached text (q.skip s.length) [] groups := (hs ▸ hq).skip
    exact ⟨s, [], hs, ⟨Nat.zero_le _, forall_noLineFeed_iff.2 hline, by simp⟩,
      (holds_lastLineEnd hend hall).2 rfl, rfl⟩

/-! ## §5 A tag before a colon -/

/-- Given characters are taken, and then the rest of the line. -/
theorem run_textParts (hq : Reached text q s groups) (chars : List CodePoint) (g : Nat) :
    (Tree.ofList (textParts chars g)).run text q some = some r ↔
      ∃ rest, s = chars ++ rest ∧ ('\n' : CodePoint) ∉ rest ∧
        r = (q.skip chars.length).capture g rest.length := by
  rw [textParts, run_ofList_append]
  refine (Committed.testRow (chars.map charTest) q _ r (refuses_nothing _)).trans ?_
  simp only [passes_map_charTest_iff, hq.ahead_eq]
  constructor
  · rintro ⟨_, rest, rfl, rfl, hr⟩
    exact ⟨rest, rfl, (run_lineParts hend hq.skip g).1 hr⟩
  · rintro ⟨rest, rfl, hr⟩
    exact ⟨chars, rest, rfl, rfl, (run_lineParts hend hq.skip g).2 hr⟩

/-- White space, a colon and a space are taken, and then the rest of the line. -/
theorem run_colonParts (hq : Reached text q s groups) :
    (Tree.ofList colonParts).run text q some = some r ↔
      ∃ blanks rest, s = blanks ++ ([(':' : CodePoint), ' '] ++ rest) ∧
        (∀ c ∈ blanks, isBlank c = true) ∧
        ('\n' : CodePoint) ∉ rest ∧ r = ((q.skip blanks.length).skip 2).capture 7 rest.length := by
  have hrejects : Rejects text (.ofList (textParts [':', ' '] 7)) fun c => blankTest.holds c.toNat :=
    rejects_textParts rfl
  rw [colonParts, run_ofList_cons, Committed.many blankTest 0 q _ r (hrejects some), hq.ahead_eq]
  simp only [Runs, holds_blankTest]
  constructor
  · rintro ⟨blanks, _, rfl, ⟨-, hblanks, -⟩, hr⟩
    obtain ⟨rest, rfl, hrest, hr⟩ := (run_textParts hend hq.skip _ _).1 hr
    exact ⟨blanks, rest, rfl, hblanks, hrest, hr⟩
  · rintro ⟨blanks, rest, rfl, hblanks, hrest, hr⟩
    refine ⟨blanks, _, rfl, ⟨Nat.zero_le _, hblanks, ?_⟩,
      (run_textParts hend hq.skip _ _).2 ⟨rest, rfl, hrest, hr⟩⟩
    rintro c ⟨⟩
    rfl

theorem run_colonParts_eq_none_iff (hq : Reached text q s groups) :
    (Tree.ofList colonParts).run text q some = none ↔ ¬ ColonBehindBlanks s := by
  rw [← Option.not_isSome_iff_eq_none, Option.isSome_iff_exists, not_iff_not]
  simp only [run_colonParts hend hq]
  constructor
  · rintro ⟨_, blanks, rest, hs, hblanks, hrest, -⟩
    exact ⟨blanks, _, hs, hblanks, rest, rfl, hrest⟩
  · rintro ⟨blanks, _, hs, hblanks, rest, rfl, hrest⟩
    exact ⟨_, blanks, rest, hs, hblanks, hrest, rfl⟩

/-- The tag that is found ends before the white space before the first colon. -/
theorem run_tagParts (hq : Reached text q s groups) :
    (Tree.ofList tagParts).run text q some = some r ↔
      ∃ before rest, FirstCut ColonHere 0 s before ([(':' : CodePoint), ' '] ++ rest) ∧
        ('\n' : CodePoint) ∉ trimRight before ∧
        r = (((q.capture 6 (trimRight before).length).skip
          (before.length - (trimRight before).length)).skip 2).capture 7 rest.length := by
  have hrun : (Tree.ofList tagParts).run text q some = (few 0 .noLineFeed).run text (q.opened 6)
      fun q' => (Tree.ofList colonParts).run text (q'.closed 6) some := rfl
  have hnone : ∀ m ≤ s.length, ((Tree.ofList colonParts).run text (q.capture 6 m) some = none ↔
      ¬ ColonBehindBlanks (s.drop m)) :=
    fun m hm => run_colonParts_eq_none_iff hend (hq.capture_drop hm 6)
  rw [hrun, run_few_eq_some_iff, Progress.ahead_opened, hq.ahead_eq]
  -- The shortest tag that can be followed by white space and a colon is the one that is read.
  constructor
  · rintro ⟨front, _, hs, hfront, -, hr, hless⟩
    have hwithin : front.length ≤ s.length := by simp [hs]
    obtain ⟨blanks, rest, htail, hblanks, hrest, rfl⟩ :=
      (run_colonParts hend (hq.capture_drop hwithin 6)).1 hr
    rw [hs, List.drop_left] at htail
    subst htail
    have hshortest : ∀ m < front.length, ¬ ColonBehindBlanks (s.drop m) :=
      fun m hm => (hnone m (hm.le.trans hwithin)).1 (hless m hm (Nat.zero_le m))
    obtain ⟨hcut, htrim⟩ := firstCut_of_shortest hs hblanks ⟨rest, rfl, hrest⟩ hshortest
    refine ⟨front ++ blanks, rest, hcut, ?_, ?_⟩
    · rw [htrim]
      exact forall_noLineFeed_iff.1 hfront
    · rw [htrim, List.length_append, Nat.add_sub_cancel_left]
  · rintro ⟨before, rest, hcut, hline, rfl⟩
    obtain ⟨blanks, hbefore, hs, hblanks⟩ := hcut.exists_blanks
    have hwithin : (trimRight before).length ≤ s.length := by
      conv_rhs => rw [hs, List.length_append]
      exact Nat.le_add_right ..
    refine ⟨trimRight before, _, hs, forall_noLineFeed_iff.2 hline, Nat.zero_le _, ?_, ?_⟩
    · have hrest := hcut.here.not_mem
      refine (run_colonParts hend (hq.capture_drop hwithin 6)).2 ⟨blanks, rest, ?_, hblanks, hrest, ?_⟩
      · conv_lhs => rw [hs, List.drop_left]
      · rw [length_sub_trimRight hbefore]
    · intro m hm _
      exact (hnone m (hm.le.trans hwithin)).2 (hcut.not_colonBehindBlanks hm)

theorem run_tagParts_eq_none_iff (hq : Reached text q s groups) :
    (Tree.ofList tagParts).run text q some = none ↔ ¬ Tagged s := by
  rw [← Option.not_isSome_iff_eq_none, Option.isSome_iff_exists, not_iff_not, tagged_iff]
  simp only [run_tagParts hend hq]
  constructor
  · rintro ⟨_, before, rest, hcut, hline, -⟩
    exact ⟨before, _, hcut, hline⟩
  · rintro ⟨before, after, hcut, hline⟩
    obtain ⟨rest, rfl, -⟩ := hcut.here
    exact ⟨_, before, rest, hcut, hline, rfl⟩

/-- White space before the tag is left to the gap, as the tag is found behind all of it if it is
found at all. -/
theorem run_gap_tagParts (hq : Reached text q s groups) :
    (Tree.ofList (many 1 blankTest :: tagParts)).run text q some
      = (ProcessEvent.run? isBlank s).bind
          fun gap => (Tree.ofList tagParts).run text (q.skip gap.1.length) some := by
  obtain ⟨gap, rest, hgap, hrest⟩ :
      ∃ gap rest, s.takeWhile isBlank = gap ∧ s.dropWhile isBlank = rest := ⟨_, _, rfl, rfl⟩
  obtain ⟨hs, hblanks, -⟩ := span_eq_iff.1 ⟨hgap, hrest⟩
  have hreach : reach text blankTest q = gap.length := by simp [reach, hq.ahead_eq, hgap]
  have hwithin : gap.length ≤ s.length := by
    rw [hs, List.length_append]
    exact Nat.le_add_right ..
  have hless : ∀ n < reach text blankTest q,
      (Tree.ofList tagParts).run text (q.skip (reach text blankTest q)) some = none →
        (Tree.ofList tagParts).run text (q.skip n) some = none := by
    rw [hreach]
    intro n hn hnone
    rw [run_tagParts_eq_none_iff hend (hq.skip_drop hwithin), hs, List.drop_left] at hnone
    rw [run_tagParts_eq_none_iff hend (hq.skip_drop (hn.le.trans hwithin)), hs,
      List.drop_append_of_le_length hn.le]
    exact fun htagged => hnone (htagged.of_append fun c hc => hblanks c (List.mem_of_mem_drop hc))
  rw [run_ofList_cons, run_many_of_last hless, hreach]
  unfold ProcessEvent.run?
  rw [hgap, hrest]
  cases gap <;> rfl

/-! ## §6 The shape with date and time -/

/-- The line of a match of the shape with date and time, from its groups. -/
def timedLine (text : Subject) (r : Progress) : Option LogLine := do
  let level ← (r.captured text 5).head?.bind levelOf?
  return ⟨r.captured text 1 ++ [(' ' : CodePoint)] ++ r.captured text 2, r.captured text 3,
    some (r.captured text 4), level, trim (r.captured text 6), r.captured text 7⟩

/-- Behind the level the tag and the text are captured. -/
theorem run_tag {date time pid tid : List CodePoint} {letter : CodePoint} {level : Level}
    (hq : Reached text q s [(5, [letter]), (4, tid), (3, pid), (2, time), (1, date)])
    (hlevel : levelOf? letter = some level) (hhead : ∀ c ∈ s.head?, isBlank c = false) :
    ((Tree.ofList tagParts).run text q some).bind (timedLine text)
      = (cutAtColon s []).bind fun cut => if oneLine (trimRight cut.1) then
          some ⟨date ++ [(' ' : CodePoint)] ++ time, pid, some tid, level, trimRight cut.1,
            cut.2⟩ else none := by
  -- The groups of a match are the pieces, as each was captured where it stands.
  have hline : ∀ before rest, FirstCut ColonHere 0 s before ([(':' : CodePoint), ' '] ++ rest) →
      timedLine text ((((q.capture 6 (trimRight before).length).skip
          (before.length - (trimRight before).length)).skip 2).capture 7 rest.length)
        = some ⟨date ++ [(' ' : CodePoint)] ++ time, pid, some tid, level, trimRight before,
          rest⟩ := by
    intro before rest hcut
    obtain ⟨blanks, hbefore, hsplit, -⟩ := hcut.exists_blanks
    -- The tag begins behind white space, so only its end can be trimmed.
    have htrim : trim (trimRight before) = trimRight before := by
      rw [trim_of_head (isBlank_head_of_isPrefix ⟨_, hsplit.symm⟩ hhead), trimRight_trimRight]
    rw [hsplit, ← List.append_nil rest] at hq
    have hr := ((hq.capture (g := 6) (by simp)).skip.skip.capture (g := 7) (by simp)).captured_eq
    rw [← length_sub_trimRight hbefore] at hr
    simp only [List.forall_mem_cons, List.length_cons, List.length_nil, Nat.reduceAdd] at hr
    obtain ⟨h₇, h₆, h₅, h₄, h₃, h₂, h₁, -⟩ := hr
    simp only [timedLine, h₇, h₆, h₅, h₄, h₃, h₂, h₁, htrim]
    simp [hlevel]
  refine Option.ext fun l => ?_
  simp only [Option.bind_eq_some_iff, run_tagParts hend hq, Prod.exists,
    cutAtColon_eq_some_iff, List.reverse_nil, List.nil_append, exists_eq_left',
    Option.ite_none_right_eq_some, oneLine_iff]
  constructor
  · rintro ⟨_, ⟨before, rest, hcut, htag, rfl⟩, hl⟩
    rw [hline before rest hcut] at hl
    exact ⟨before, rest, hcut, htag, hl⟩
  · rintro ⟨before, rest, hcut, htag, hl⟩
    refine ⟨_, ⟨before, rest, hcut, htag, rfl⟩, ?_⟩
    rw [hline before rest hcut]
    exact hl

/-- From the letter of the level on, a match gives what is read. -/
theorem run_level {date time pid tid : List CodePoint}
    (hq : Reached text q s [(4, tid), (3, pid), (2, time), (1, date)]) :
    ((Tree.ofList (group 5 [one letterTest] :: many 1 blankTest :: tagParts)).run text q some).bind
        (timedLine text)
      = s.head?.bind fun letter => (levelOf? letter).bind fun level => (blanks? (s.drop 1)).bind
          fun s => (cutAtColon s []).bind fun cut => if oneLine (trimRight cut.1) then
            some ⟨date ++ [(' ' : CodePoint)] ++ time, pid, some tid, level, trimRight cut.1,
              cut.2⟩ else none := by
  refine run_letter hq (by simp) fun letter level rest q' hs hlevel hq' => ?_
  rw [run_gap_tagParts hend hq', Option.bind_assoc, hs, List.drop_one, List.tail_cons, blanks?_eq,
    Option.bind_map]
  refine Option.bind_congr fun gap hgap => ?_
  obtain ⟨blanks, rest⟩ := gap
  obtain ⟨rfl, -, hhead⟩ := ProcessEvent.run?_eq_some_iff.1 hgap
  exact run_tag hend hq'.skip hlevel hhead

/-- The first match of the shape with date and time gives what is read. -/
theorem run_timedParts :
    ((Tree.ofList timedParts).run text ⟨0, []⟩ some).bind (timedLine text)
      = readTimed text.toList := by
  have hdigit : ∀ c : CodePoint, digitTest.holds c.toNat = true → isBlank c = false := by
    intro c hc
    rw [holds_digitTest] at hc
    exact isBlank_of_isDecimal hc
  have hblank : ∀ c : CodePoint,
      blankTest.holds c.toNat = true → digitTest.holds c.toNat = false := by
    intro c hc
    rw [holds_blankTest] at hc
    rw [holds_digitTest, isDecimal_of_isBlank hc]
  have hletter : ∀ c : CodePoint,
      blankTest.holds c.toNat = true → letterTest.holds c.toNat = false := by
    intro c hc
    rw [holds_blankTest] at hc
    rw [Bool.eq_false_iff, Ne, holds_letterTest]
    intro hmem
    rw [(isBlank_letter hmem).1] at hc
    cases hc
  have hstart : Place.textStart.holds text 0 = true := rfl
  rw [timedParts, run_ofList_cons, run_place, if_pos hstart]
  -- Each piece ends where white space begins, and each gap where the next piece begins.
  refine run_piece (Reached.start text) (by simp) committed_date (fun _ _ _ => date?_eq_some_iff)
    (fun _ h => absurd h Bool.false_ne_true) ?_ fun date _ _ q₁ h₁ => ?_
  · exact rejects_group (Rejects.seq (Rejects.one hblank))
  refine run_piece h₁ (by simp) committed_time (fun _ _ _ => time?_eq_some_iff) hdigit ?_
    fun time _ _ q₂ h₂ => ?_
  · exact rejects_group (Rejects.seq (Rejects.many Nat.one_pos hblank))
  refine run_piece h₂ (by simp) committed_number (fun _ _ _ => digits?_eq_some_iff) hdigit ?_
    fun pid _ _ q₃ h₃ => ?_
  · exact rejects_group (Rejects.seq (Rejects.many Nat.one_pos hblank))
  refine run_piece h₃ (by simp) committed_number (fun _ _ _ => digits?_eq_some_iff) hdigit ?_
    fun tid _ _ q₄ h₄ => ?_
  · exact rejects_group (Rejects.seq (Rejects.one hletter))
  exact run_level hend h₄

/-! ## §7 The brief shape -/

/-- A process number is captured, and behind its parenthesis the text. -/
theorem run_pidParts (hq : Reached text q s groups) :
    (Tree.ofList (group 3 [many 1 digitTest] :: textParts [')', ':', ' '] 4)).run text q some = some r ↔
      ∃ pid rest, s = pid ++ ([(')' : CodePoint), ':', ' '] ++ rest) ∧ IsNumber pid ∧
        ('\n' : CodePoint) ∉ rest ∧
        r = ((q.capture 3 pid.length).skip 3).capture 4 rest.length := by
  have hrejects : Rejects text (.ofList (textParts [')', ':', ' '] 4)) fun c => digitTest.holds c.toNat :=
    rejects_textParts (by decide)
  have hcapture : ∀ {front rest}, s = front ++ rest →
      Reached text (q.capture 3 front.length) rest [(3, front)] := by
    rintro front rest rfl
    exact hq.forget.capture (List.forall_mem_nil _)
  rw [run_ofList_cons, group, committed_number.run_group 3 .plain .plain
    (fun _ _ _ => digits?_eq_some_iff) (hrejects some), hq.ahead_eq]
  simp only [Option.bind_eq_some_iff, Prod.exists, digits?_eq_some_iff]
  constructor
  · rintro ⟨pid, _, ⟨hs, hpid, -⟩, hr⟩
    obtain ⟨rest, rfl, hrest, hr⟩ := (run_textParts hend (hcapture hs) _ _).1 hr
    exact ⟨pid, rest, hs, hpid, hrest, hr⟩
  · rintro ⟨pid, rest, hs, hpid, hrest, hr⟩
    refine ⟨pid, _, ⟨hs, hpid, ?_⟩, (run_textParts hend (hcapture hs) _ _).2 ⟨rest, rfl, hrest, hr⟩⟩
    rintro c ⟨⟩
    decide

/-- A process number in parentheses is taken, and then the rest of the line. -/
theorem run_bracketParts (hq : Reached text q s groups) :
    (Tree.ofList bracketParts).run text q some = some r ↔
      ∃ (b : Bracket) (rest : List CodePoint), s = b.chars ++ rest ∧ ('\n' : CodePoint) ∉ rest ∧
        r = (((q.skip (b.spaces.length + 1)).capture 3 b.pid.length).skip 3).capture 4 rest.length := by
  -- The spaces are all taken, as no number begins with a space.
  have hrejects : Rejects text
      (.ofList (group 3 [many 1 digitTest] :: textParts [')', ':', ' '] 4))
      fun c => (charTest ' ').holds c.toNat := by
    refine rejects_group (Rejects.seq (Rejects.many Nat.one_pos fun c hc => ?_))
    rw [holds_charTest, beq_iff_eq] at hc
    rw [hc, holds_digitTest]
    decide
  rw [bracketParts, run_ofList_append, committed_bracketStart q _ r (hrejects some), hq.ahead_eq]
  constructor
  · rintro ⟨_, _, rfl, ⟨spaces, rfl, hspaces, -⟩, hr⟩
    obtain ⟨pid, rest, rfl, hpid, hrest, rfl⟩ := (run_pidParts hend hq.skip).1 hr
    exact ⟨⟨spaces, pid, hspaces, hpid⟩, rest, by simp [Bracket.chars], hrest, rfl⟩
  · rintro ⟨b, rest, hs, hrest, rfl⟩
    have hsplit : s = (.char '(' :: b.spaces)
        ++ (b.pid ++ ([(')' : CodePoint), ':', ' '] ++ rest)) := by
      rw [hs, Bracket.chars]
      simp
    subst hsplit
    refine ⟨_, _, rfl, ⟨b.spaces, rfl, b.spaces_eq, ?_⟩,
      (run_pidParts hend hq.skip).2 ⟨b.pid, rest, rfl, b.pid_isNumber, hrest, rfl⟩⟩
    intro c hc
    have hblank := b.pid_isNumber.isBlank_head _ c hc
    rintro rfl
    exact absurd hblank (by decide)

theorem run_bracketParts_eq_none_iff (hq : Reached text q s groups) :
    (Tree.ofList bracketParts).run text q some = none ↔ ¬ BracketHere s := by
  rw [← Option.not_isSome_iff_eq_none, Option.isSome_iff_exists, not_iff_not]
  simp only [run_bracketParts hend hq]
  constructor
  · rintro ⟨_, b, rest, hs, hrest, -⟩
    exact ⟨b, rest, hs, hrest⟩
  · rintro ⟨b, rest, hs, hrest⟩
    exact ⟨_, b, rest, hs, hrest, rfl⟩

/-- The tag that is found ends before the first process number behind its front. -/
theorem run_tag_bracketParts (hq : Reached text q s groups) :
    (Tree.ofList (group 2 [few 1 .noLineFeed] :: bracketParts)).run text q some = some r ↔
      ∃ (before : List CodePoint) (b : Bracket) (rest : List CodePoint),
        FirstCut BracketHere 1 s before (b.chars ++ rest) ∧ ('\n' : CodePoint) ∉ before ∧
        r = ((((q.capture 2 before.length).skip (b.spaces.length + 1)).capture 3
          b.pid.length).skip 3).capture 4 rest.length := by
  have hrun : (Tree.ofList (group 2 [few 1 .noLineFeed] :: bracketParts)).run text q some
      = (few 1 .noLineFeed).run text (q.opened 2)
          fun q' => (Tree.ofList bracketParts).run text (q'.closed 2) some := rfl
  -- The shortest tag that goes on to a match is the first place where a number stands.
  have hnone : ∀ m ≤ s.length, ((Tree.ofList bracketParts).run text (q.capture 2 m) some = none ↔
      ¬ BracketHere (s.drop m)) :=
    fun m hm => run_bracketParts_eq_none_iff hend (hq.capture_drop hm 2)
  rw [hrun, run_few_eq_some_iff, Progress.ahead_opened, hq.ahead_eq]
  constructor
  · rintro ⟨before, _, hs, hline, hleast, hr, hless⟩
    have hwithin : before.length ≤ s.length := by simp [hs]
    obtain ⟨b, rest, hafter, hrest, rfl⟩ := (run_bracketParts hend (hq.capture_drop hwithin 2)).1 hr
    rw [hs, List.drop_left] at hafter
    subst hafter
    refine ⟨before, b, rest, ⟨hs, hleast, ⟨b, rest, rfl, hrest⟩, fun m hm hm' => ?_⟩,
      forall_noLineFeed_iff.1 hline, rfl⟩
    exact (hnone m (hm.le.trans hwithin)).1 (hless m hm hm')
  · rintro ⟨before, b, rest, hcut, hline, rfl⟩
    have hwithin : before.length ≤ s.length := by simp [hcut.eq]
    have hrest : ('\n' : CodePoint) ∉ rest :=
      fun hmem => hcut.here.not_mem (List.mem_append_right _ hmem)
    refine ⟨before, _, hcut.eq, forall_noLineFeed_iff.2 hline, hcut.least_le, ?_, fun m hm hm' => ?_⟩
    · refine (run_bracketParts hend (hq.capture_drop hwithin 2)).2 ⟨b, rest, ?_, hrest, rfl⟩
      conv_lhs => rw [hcut.eq, List.drop_left]
    · exact (hnone m (hm.le.trans hwithin)).2 (hcut.first m hm hm')

/-- The line of a match of the brief shape, from its groups. -/
def briefLine (text : Subject) (r : Progress) : Option LogLine := do
  let level ← (r.captured text 1).head?.bind levelOf?
  return ⟨[], r.captured text 3, none, level, trim (r.captured text 2), r.captured text 4⟩

/-- Behind the slash the tag, the process number and the text are captured. -/
theorem run_briefTag {letter : CodePoint} {level : Level} (hq : Reached text q s [(1, [letter])])
    (hlevel : levelOf? letter = some level) :
    ((Tree.ofList (group 2 [few 1 .noLineFeed] :: bracketParts)).run text q some).bind (briefLine text)
      = (cutAtBracket s []).bind fun cut => if oneLine cut.1 then
          some ⟨[], cut.2.1, none, level, trim cut.1, cut.2.2⟩ else none := by
  -- The groups of a match are the pieces, as each was captured where it stands.
  have hline : ∀ (before : List CodePoint) (b : Bracket) (rest : List CodePoint),
      FirstCut BracketHere 1 s before (b.chars ++ rest) →
      briefLine text (((((q.capture 2 before.length).skip (b.spaces.length + 1)).capture 3
          b.pid.length).skip 3).capture 4 rest.length)
        = some ⟨[], b.pid, none, level, trim before, rest⟩ := by
    intro before b rest hcut
    have hsplit : s = before ++ ((.char '(' :: b.spaces) ++ (b.pid ++
        ([(')' : CodePoint), ':', ' '] ++ (rest ++ [])))) := by
      rw [hcut.eq, Bracket.chars]
      simp
    rw [hsplit] at hq
    have hr := ((((hq.capture (g := 2) (by simp)).skip.capture (g := 3) (by simp)).skip).capture
      (g := 4) (by simp)).captured_eq
    simp only [List.forall_mem_cons, List.length_cons, List.length_nil, Nat.reduceAdd] at hr
    obtain ⟨h₄, h₃, h₂, h₁, -⟩ := hr
    simp only [briefLine, h₄, h₃, h₂, h₁]
    simp [hlevel]
  refine Option.ext fun l => ?_
  simp only [Option.bind_eq_some_iff, run_tag_bracketParts hend hq, Prod.exists,
    cutAtBracket_eq_some_iff, Option.ite_none_right_eq_some, oneLine_iff]
  constructor
  · rintro ⟨_, ⟨before, b, rest, hcut, htag, rfl⟩, hl⟩
    rw [hline before b rest hcut] at hl
    exact ⟨before, b.pid, rest, ⟨b, rfl, hcut⟩, htag, hl⟩
  · rintro ⟨before, _, rest, ⟨b, rfl, hcut⟩, htag, hl⟩
    refine ⟨_, ⟨before, b, rest, hcut, htag, rfl⟩, ?_⟩
    rw [hline before b rest hcut]
    exact hl

/-- The first match of the brief shape gives what is read. -/
theorem run_briefParts :
    ((Tree.ofList briefParts).run text ⟨0, []⟩ some).bind (briefLine text)
      = readBrief text.toList := by
  have hstart : Place.textStart.holds text 0 = true := rfl
  rw [briefParts, run_ofList_cons, run_place, if_pos hstart]
  refine run_letter (Reached.start text) (by simp) fun letter level s q hs hlevel hq => ?_
  rw [hs, List.drop_one, List.tail_cons, run_ofList_cons, run_one, hq.ahead_eq]
  cases s with
  | nil => rfl
  | cons c s =>
    rw [List.head?_cons]
    dsimp only
    rw [holds_charTest, char?]
    by_cases hc : c = '/'
    · have hslash : Reached text q ([c] ++ s) _ := hq
      rw [if_pos (beq_iff_eq.2 hc), if_pos hc]
      exact run_briefTag hend hslash.skip hlevel
    · rw [if_neg (by simpa using hc), if_neg hc]
      rfl

end Matching

/-! ## §8 Lines -/

/-- The first match of a pattern from the beginning of a text. -/
def firstMatch? (pattern : Text) (s : List CodePoint) : Option Progress :=
  match compile pattern with
  | .ok p => p.tree.run s.toArray ⟨0, []⟩ some
  | .error _ => none

/-- A line is read as the patterns match it: as a line with date and time if the first one matches,
and otherwise as a brief line. -/
theorem read_eq_firstMatch? (line : List CodePoint) :
    let s := withoutLineEnd line
    read line = ((firstMatch? timedPattern s).bind (timedLine s.toArray)).or
      ((firstMatch? briefPattern s).bind (briefLine s.toArray)) := by
  intro s
  have hend : s.toArray.toList.getLast? ≠ some ('\n' : CodePoint) := by
    obtain ⟨-, -, -, hlast⟩ := withoutLineEnd_eq_iff.1 (rfl : withoutLineEnd line = _)
    exact fun hfeed => (hlast '\n' hfeed).2 rfl
  have htimed := run_timedParts hend
  have hbrief := run_briefParts hend
  rw [firstMatch?, firstMatch?, compile_timedPattern, compile_briefPattern, htimed, hbrief]
  rfl

end LogViewer.LogLine
