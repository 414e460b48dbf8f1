import LogViewer.Proofs.LogLine.Shapes

/-!
# Printed log lines

The log prints its entries in one of two shapes, with process and thread filled up to five columns
and the tag filled up to eight. Reading a printed line gives the entry back, as long as the tag does
not hold the separator that ends it. The process numbers that an entry of the activity manager tells
are read on the way, and a number with too many digits keeps the entry from being read.

## Main definitions

- `LogLine.LogEntry`: what the log prints
- `LogLine.LogEntry.timed`, `LogLine.LogEntry.brief`: the two shapes

## Main statements

- `LogLine.LogEntry.read_timed`, `LogLine.LogEntry.read_brief`: the parts of a printed line
- `Processes.readLine_printed`: the message of a printed line
-/

namespace LogViewer

open LogViewer.Text

/-! ## §1 Tags -/

theorem toList_padRight (width : Nat) (s : Text) :
    (padRight width s).toList
      = s.toList ++ List.replicate (width - s.length) (' ' : CodePoint) := by
  rw [padRight, Text.toList_append, Text.toList_ofList]

namespace Text

/-- A trimmed text does not begin with white space. -/
theorem dropBlanks_of_trim {s : List CodePoint} (h : trim s = s) : dropBlanks s = s := by
  have hsuffix : dropBlanks s <:+ s := List.dropWhile_suffix _
  refine hsuffix.eq_of_length (Nat.le_antisymm hsuffix.length_le ?_)
  calc s.length = (trim s).length := by rw [h]
    _ = ((dropBlanks s).reverse.dropWhile isBlank).length := List.length_reverse
    _ ≤ (dropBlanks s).reverse.length := (List.dropWhile_suffix _).length_le
    _ = (dropBlanks s).length := List.length_reverse

/-- A trimmed text does not end with white space. -/
theorem trimRight_of_trim {s : List CodePoint} (h : trim s = s) : trimRight s = s := by
  have htrim : trimRight (dropBlanks s) = s := h
  rwa [dropBlanks_of_trim h] at htrim

/-- Spaces at the end are cut off. -/
theorem trimRight_spaces (s : List CodePoint) (n : Nat) :
    trimRight (s ++ List.replicate n (' ' : CodePoint)) = trimRight s := by
  unfold trimRight
  rw [List.reverse_append, List.reverse_replicate, List.dropWhile_append_of_pos]
  intro c hc
  rw [List.eq_of_mem_replicate hc]
  decide

/-- White space is dropped before a trimmed text, which stays, unless the text is empty. -/
theorem dropBlanks_padded {s : List CodePoint} (h : trim s = s) (n : Nat) {rest : List CodePoint}
    (hrest : ∀ c ∈ rest.head?, isBlank c = false) :
    ∃ m, dropBlanks (s ++ List.replicate n (' ' : CodePoint) ++ rest)
      = s ++ List.replicate m (' ' : CodePoint) ++ rest ∧
      s ++ List.replicate m (' ' : CodePoint) <:+ s ++ List.replicate n (' ' : CodePoint) := by
  cases s with
  | nil =>
    -- An empty text has nothing before its spaces that would keep them.
    refine ⟨0, ?_, List.nil_suffix⟩
    rw [List.nil_append, LogLine.dropBlanks_spaces, LogLine.dropBlanks_of_head hrest]
    rfl
  | cons c s =>
    have hhead : isBlank c = false := by
      rw [Bool.eq_false_iff]
      intro hc
      have hdrop := dropBlanks_of_trim h
      rw [dropBlanks, List.dropWhile_cons_of_pos hc] at hdrop
      have hshort := (List.dropWhile_suffix isBlank (l := s)).length_le
      rw [hdrop, List.length_cons] at hshort
      omega
    refine ⟨n, LogLine.dropBlanks_of_head ?_, List.suffix_refl _⟩
    rintro d ⟨⟩
    exact hhead

/-- Spaces behind a trimmed text are cut off when it is trimmed again. -/
theorem trim_padded {s : List CodePoint} (h : trim s = s) (n : Nat) :
    trim (s ++ List.replicate n (' ' : CodePoint)) = s := by
  have hnil : ∀ c ∈ ([] : List CodePoint).head?, isBlank c = false := by simp
  obtain ⟨m, hdrop, _⟩ := dropBlanks_padded h n hnil
  rw [List.append_nil, List.append_nil] at hdrop
  rw [trim, hdrop, trimRight_spaces, trimRight_of_trim h]

end Text

namespace LogLine

/-! ## §2 Entries -/

/-- What the log prints on a line, apart from date, time and thread. -/
structure LogEntry where
  pid : Nat
  /-- The letter of the level. -/
  letter : CodePoint
  tag : Text
  text : Text
  pid_short : (toString pid).length ≤ digitLimit
  letter_mem : letter ∈ Text.toList "VDIWEFA"
  tag_trimmed : trim tag.toList = tag.toList
  tag_oneLine : ('\n' : CodePoint) ∉ tag.toList
  text_oneLine : ('\n' : CodePoint) ∉ text.toList
  text_end : text.toList.getLast? ≠ some ('\r' : CodePoint)

namespace LogEntry

/-- The line with date, time and thread. -/
def timed (e : LogEntry) (date time : Text) (tid : Nat) : Text :=
  date ++ " " ++ time ++ " " ++ padLeft 5 (toString e.pid) ++ " " ++ padLeft 5 (toString tid)
    ++ " " ++ .ofList [e.letter] ++ " " ++ padRight 8 e.tag ++ ": " ++ e.text

/-- The line without date, time and thread. -/
def brief (e : LogEntry) : Text :=
  .ofList [e.letter] ++ "/" ++ padRight 8 e.tag ++ "(" ++ padLeft 5 (toString e.pid) ++ "): "
    ++ e.text

/-- The letter of an entry stands for a level: for the level that is printed so, and F for the
highest too. -/
theorem exists_level (e : LogEntry) :
    ∃ level : Level, (level.letter = e.letter ∨ e.letter = 'F' ∧ level = .assert) ∧
      levelOf? e.letter = some level := by
  rcases letter_cases e.letter_mem with h | h | h | h | h | h | h <;> rw [h]
  · exact ⟨.verbose, .inl rfl, rfl⟩
  · exact ⟨.debug, .inl rfl, rfl⟩
  · exact ⟨.info, .inl rfl, rfl⟩
  · exact ⟨.warn, .inl rfl, rfl⟩
  · exact ⟨.error, .inl rfl, rfl⟩
  · exact ⟨.assert, .inr ⟨rfl, rfl⟩, rfl⟩
  · exact ⟨.assert, .inl rfl, rfl⟩

/-- The line with date, time and thread, from piece to piece. -/
theorem toList_timed (e : LogEntry) (date time : Text) (tid : Nat) :
    (e.timed date time tid).toList = date.toList ++ .char ' ' :: (time.toList ++
      .char ' ' :: ((padLeft 5 (toString e.pid)).toList ++
        .char ' ' :: ((padLeft 5 (toString tid)).toList ++ .char ' ' :: e.letter :: .char ' ' ::
          ((padRight 8 e.tag).toList ++ .char ':' :: .char ' ' :: e.text.toList)))) := by
  simp [timed, toString]

/-- The line without date, time and thread, from piece to piece. -/
theorem toList_brief (e : LogEntry) :
    e.brief.toList = e.letter :: .char '/' :: ((padRight 8 e.tag).toList ++
      .char '(' :: ((padLeft 5 (toString e.pid)).toList ++ [(')' : CodePoint), ':', ' ']
        ++ e.text.toList)) := by
  simp [brief, toString]

/-! ## §3 The two shapes -/

/-- The process number as it stands in a line, with what follows it. -/
theorem digits?_toString (n : Nat) {c : CodePoint} (hc : isDecimal c = false)
    (rest : List CodePoint) :
    digits? ((Text.toList (toString n)) ++ c :: rest) = some (decimal n, c :: rest) := by
  rw [toList_toString]
  refine digits?_eq_some_iff.2 ⟨rfl, isNumber_decimal n, ?_⟩
  rintro d ⟨⟩
  exact hc

theorem isNumber_toString (n : Nat) : IsNumber (Text.toList (toString n)) := by
  rw [toList_toString]
  exact isNumber_decimal n

/-- The tag between its white space and the colon is read from where the white space ends. -/
theorem cutAtColon_tag (e : LogEntry)
    (htag : ¬ [(':' : CodePoint), ' '] <:+: (padRight 8 e.tag).toList) :
    ∃ before, cutAtColon
        (dropBlanks ((padRight 8 e.tag).toList ++ .char ':' :: .char ' ' :: e.text.toList)) []
          = some (before, e.text.toList) ∧ trimRight before = e.tag.toList := by
  rw [toList_padRight] at htag ⊢
  have hcolon : ∀ c ∈ (.char ':' :: .char ' ' :: e.text.toList).head?, isBlank c = false := by
    rintro c ⟨⟩
    decide
  obtain ⟨m, hdrop, hsuffix⟩ := dropBlanks_padded e.tag_trimmed (8 - e.tag.length) hcolon
  refine ⟨e.tag.toList ++ List.replicate m (' ' : CodePoint), ?_, ?_⟩
  · rw [hdrop]
    exact cutAtColon_eq_some_iff.2
      ⟨_, rfl, .of_not_isInfix (fun h => htag (h.trans hsuffix.isInfix)) e.text_oneLine⟩
  · rw [trimRight_spaces, trimRight_of_trim e.tag_trimmed]

theorem oneLine_tag (e : LogEntry) : oneLine e.tag.toList = true := by
  simpa [oneLine] using e.tag_oneLine

/-- A printed line with date, time and thread is read piece by piece. -/
theorem readTimed_timed (e : LogEntry) {date time : Text} (tid : Nat) {level : Level}
    (hdate : IsDate date.toList) (htime : IsTime time.toList)
    (htag : ¬ [(':' : CodePoint), ' '] <:+: (padRight 8 e.tag).toList)
    (hlevel : levelOf? e.letter = some level) :
    readTimed (e.timed date time tid).toList
      = some ⟨date.toList ++ [(' ' : CodePoint)] ++ time.toList,
      decimal e.pid, some (decimal tid), level, e.tag.toList, e.text.toList⟩ := by
  obtain ⟨before, hcut, htrim⟩ := e.cutAtColon_tag htag
  have hspace : isDecimal ' ' = false := by decide
  have hletter : ∀ rest, blanks? (' ' :: e.letter :: rest) = some (e.letter :: rest) := by
    intro rest
    refine blanks?_of_head ?_
    rintro c ⟨⟩
    exact (isBlank_letter e.letter_mem).1
  rw [toList_timed, readTimed, date?_eq_some_iff.2 ⟨rfl, hdate⟩]
  -- Each piece ends where the space behind it begins.
  simp only [Option.bind_eq_bind, Option.bind_some]
  rw [blanks?_of_head (htime.isBlank_head _), Option.bind_some,
    time?_eq_some_iff.2 ⟨rfl, htime, by rintro c ⟨⟩; exact hspace⟩]
  simp only [Option.bind_some]
  rw [blanks?_padLeft 5 (isNumber_toString _), Option.bind_some, digits?_toString _ hspace]
  simp only [Option.bind_some]
  rw [blanks?_padLeft 5 (isNumber_toString _), Option.bind_some, digits?_toString _ hspace]
  simp only [Option.bind_some]
  rw [hletter, Option.bind_some, List.head?_cons, Option.bind_some, hlevel, Option.bind_some,
    List.drop_one, List.tail_cons, blanks?_space, Option.bind_some, hcut]
  simp only [Option.bind_some, htrim, e.oneLine_tag, if_true]

/-- No printed line without date, time and thread begins with a date. -/
theorem readTimed_brief (e : LogEntry) : readTimed e.brief.toList = none := by
  have hdate : date? e.brief.toList = none := by
    rw [toList_brief, date?, twoDigits?]
    simp [(isBlank_letter e.letter_mem).2]
  rw [readTimed, hdate]
  rfl

/-- The process number in parentheses, behind its spaces. -/
def bracket (e : LogEntry) : Bracket where
  spaces := List.replicate (5 - (toString e.pid).length) ' '
  pid := decimal e.pid
  spaces_eq := fun _ => List.eq_of_mem_replicate
  pid_isNumber := isNumber_decimal e.pid

/-- The tag up to the process number in parentheses. -/
theorem cutAtBracket_tag (e : LogEntry) (htag : ¬ HasBracket (padRight 8 e.tag).toList) :
    cutAtBracket ((padRight 8 e.tag).toList ++
        .char '(' :: ((padLeft 5 (toString e.pid)).toList ++ [(')' : CodePoint), ':', ' ']
          ++ e.text.toList)) []
      = some ((padRight 8 e.tag).toList, decimal e.pid, e.text.toList) := by
  have hne : (padRight 8 e.tag).toList ≠ [] := by
    rw [toList_padRight]
    intro h
    obtain ⟨htag, hpad⟩ := List.append_eq_nil_iff.1 h
    rw [← Text.length_toList, htag] at hpad
    cases hpad
  have hbracket : .char '(' ::
      ((padLeft 5 (toString e.pid)).toList ++ [(')' : CodePoint), ':', ' '] ++ e.text.toList)
      = e.bracket.chars ++ e.text.toList := by
    simp [padLeft, bracket, Bracket.chars, ← toList_toString, Text.length, ← String.length_toList]
  rw [hbracket]
  exact cutAtBracket_eq_some_iff.2
    ⟨e.bracket, rfl, .of_not_hasBracket htag hne e.bracket e.text_oneLine⟩

/-- A printed line without date, time and thread is read piece by piece. -/
theorem readBrief_brief (e : LogEntry) {level : Level}
    (htag : ¬ HasBracket (padRight 8 e.tag).toList) (hlevel : levelOf? e.letter = some level) :
    readBrief e.brief.toList
      = some ⟨[], decimal e.pid, none, level, e.tag.toList, e.text.toList⟩ := by
  have hline : oneLine (padRight 8 e.tag).toList = true := by
    rw [toList_padRight]
    simpa [oneLine] using e.tag_oneLine
  have htrim : trim (padRight 8 e.tag).toList = e.tag.toList := by
    rw [toList_padRight, trim_padded e.tag_trimmed]
  rw [toList_brief, readBrief, List.head?_cons, Option.bind_eq_bind, Option.bind_some, hlevel,
    Option.bind_eq_bind, Option.bind_some, List.drop_one, List.tail_cons, char?_eq_some_iff.2 rfl,
    Option.bind_eq_bind, Option.bind_some, e.cutAtBracket_tag htag]
  simp only [Option.bind_eq_bind, Option.bind_some, hline, if_true, htrim]

/-- The line ends behind a printed line are cut off, as its text ends before them. -/
theorem withoutLineEnd_line (e : LogEntry) {line ending : Text}
    (hline : .char ' ' :: e.text.toList <:+ line.toList)
    (hending : ∀ c ∈ ending.toList, c = '\r' ∨ c = '\n') :
    withoutLineEnd (line ++ ending).toList = line.toList := by
  refine withoutLineEnd_eq_iff.2 ⟨ending.toList, Text.toList_append .., hending, ?_⟩
  -- Before the line ends stands the space, or the last character of the text.
  obtain ⟨front, hfront⟩ := hline
  rw [← hfront, List.getLast?_append, List.getLast?_cons, Option.some_or]
  rintro c ⟨⟩
  cases hlast : e.text.toList.getLast? with
  | none => decide
  | some c =>
    exact ⟨fun hc => e.text_end (hc ▸ hlast),
      fun hc => e.text_oneLine (hc ▸ List.mem_of_getLast? hlast)⟩

/-- The parts of a printed line with date, time and thread, whatever line ends follow it. -/
theorem read_timed (e : LogEntry) {date time ending : Text} (tid : Nat) {level : Level}
    (hdate : IsDate date.toList) (htime : IsTime time.toList)
    (htag : ¬ [(':' : CodePoint), ' '] <:+: (padRight 8 e.tag).toList)
    (hlevel : levelOf? e.letter = some level)
    (hending : ∀ c ∈ ending.toList, c = '\r' ∨ c = '\n') :
    read (e.timed date time tid ++ ending).toList
      = some ⟨date.toList ++ [(' ' : CodePoint)] ++ time.toList,
      decimal e.pid, some (decimal tid), level, e.tag.toList, e.text.toList⟩ := by
  have hline : .char ' ' :: e.text.toList <:+ (e.timed date time tid).toList := by
    rw [toList_timed]
    exact ⟨date.toList ++ .char ' ' :: (time.toList ++
      .char ' ' :: ((padLeft 5 (toString e.pid)).toList ++
        .char ' ' :: ((padLeft 5 (toString tid)).toList ++ .char ' ' :: e.letter :: .char ' ' ::
          ((padRight 8 e.tag).toList ++ [(':' : CodePoint)])))), by simp⟩
  rw [read, e.withoutLineEnd_line hline hending, e.readTimed_timed tid hdate htime htag hlevel]
  rfl

/-- The parts of a printed line without date, time and thread, whatever line ends follow it. -/
theorem read_brief (e : LogEntry) {ending : Text} {level : Level}
    (htag : ¬ HasBracket (padRight 8 e.tag).toList) (hlevel : levelOf? e.letter = some level)
    (hending : ∀ c ∈ ending.toList, c = '\r' ∨ c = '\n') :
    read (e.brief ++ ending).toList
      = some ⟨[], decimal e.pid, none, level, e.tag.toList, e.text.toList⟩ := by
  have hline : .char ' ' :: e.text.toList <:+ e.brief.toList := by
    rw [toList_brief]
    exact ⟨e.letter :: .char '/' :: ((padRight 8 e.tag).toList ++
      .char '(' :: ((padLeft 5 (toString e.pid)).toList ++ [(')' : CodePoint), ':'])), by simp⟩
  rw [read, e.withoutLineEnd_line hline hending, e.readTimed_brief, e.readBrief_brief htag hlevel]
  rfl

end LogEntry

end LogLine

/-! ## §4 Messages -/

theorem LogLine.readTid_of_some {l : LogLine} {digits : List CodePoint} {n : Nat}
    (h : l.tid = some digits) (hn : readNat digits = .ok n) : l.readTid = .ok (some (n : Int)) := by
  rw [readTid, h]
  dsimp only
  rw [hn]
  rfl

/-- The message of a line whose own numbers can be read depends on the names that are learnt. -/
theorem Processes.readLine_of_read {p : Processes} {line : Text} {l : LogLine} {pid : Nat}
    {tid : Option Int} (h : LogLine.read line.toList = some l) (hpid : readNat l.pid = .ok pid)
    (htid : l.readTid = .ok tid) :
    p.readLine line = (p.learn l.tag l.text).map fun p' =>
      (some ⟨Text.ofList l.timestamp, pid, p'.nameOf pid, Text.ofList l.tag, l.level,
        Text.ofList l.text, tid⟩, p') := by
  unfold readLine message
  rw [h]
  dsimp only
  rw [htid, hpid]
  cases p.learn l.tag l.text <;> rfl

open LogLine

/-- Reading undoes printing, in both shapes and whatever line ends follow, if the tag does not hold
the separator behind it: the entry comes back with the name that its process has once the line is
learnt from. Only an entry of the activity manager that tells a number with too many digits is not
read. -/
theorem Processes.readLine_printed (e : LogEntry) (p : Processes) :
    (∃ level : Level, (level.letter = e.letter ∨ e.letter = 'F' ∧ level = .assert) ∧
      (∀ (date time ending : Text) (tid : Nat), IsDate date.toList → IsTime time.toList →
        (toString tid).length ≤ digitLimit → (∀ c ∈ ending.toList, c = '\r' ∨ c = '\n') →
        ¬ [(':' : CodePoint), ' '] <:+: (padRight 8 e.tag).toList →
        p.readLine (e.timed date time tid ++ ending)
          = (p.learn e.tag.toList e.text.toList).map fun p' =>
            (some ⟨date ++ " " ++ time, e.pid, p'.nameOf e.pid, e.tag, level, e.text, some tid⟩,
              p')) ∧
      (∀ ending : Text, (∀ c ∈ ending.toList, c = '\r' ∨ c = '\n') →
        ¬ HasBracket (padRight 8 e.tag).toList →
        p.readLine (e.brief ++ ending)
          = (p.learn e.tag.toList e.text.toList).map fun p' =>
            (some ⟨"", e.pid, p'.nameOf e.pid, e.tag, level, e.text, none⟩, p'))) ∧
    ((∃ p', p.learn e.tag.toList e.text.toList = .ok p') ↔
      ∀ digits, ProcessEvent.told? e.tag.toList e.text.toList = some digits →
        digits.length ≤ digitLimit) := by
  obtain ⟨level, hletter, hlevel⟩ := e.exists_level
  refine ⟨⟨level, hletter, ?_, ?_⟩, learn_ok_iff⟩
  · intro date time ending tid hdate htime htid hending htag
    -- The number of the thread is short, as that of the process is by the entry itself.
    have hread := e.read_timed tid hdate htime htag hlevel hending
    rw [readLine_of_read hread (readNat_decimal e.pid_short)
      (readTid_of_some rfl (readNat_decimal htid))]
    have hstamp : Text.ofList (date.toList ++ [(' ' : CodePoint)] ++ time.toList)
        = date ++ " " ++ time := rfl
    rw [hstamp]
  · intro ending hending htag
    have hread := e.read_brief htag hlevel hending
    rw [readLine_of_read hread (readNat_decimal e.pid_short) rfl]
    rfl

/-- A text without a parenthesis has no process number in parentheses. -/
theorem LogLine.not_hasBracket {s : List CodePoint} (h : ('(' : CodePoint) ∉ s) :
    ¬ HasBracket s := by
  rintro ⟨before, spaces, digits, after, rfl, _⟩
  exact h (List.mem_append_right _ (List.mem_cons_self ..))

/-- The date and the time of the sample lines. -/
theorem LogLine.sample_stamp : IsDate (Text.toList "08-11") ∧ IsTime (Text.toList "19:11:07.132") :=
  ⟨⟨'0', '8', '1', '1', rfl, by decide⟩,
    ⟨'1', '9', '1', '1', '0', '7', ['1', '3', '2'], rfl, by decide, by simp,
      List.all_eq_true.1 (by decide)⟩⟩

/-- The entry of a tag that gets filled up. -/
def LogLine.LogEntry.dtag : LogEntry where
  pid := 495
  letter := 'D'
  tag := "dtag"
  text := "message"
  pid_short := by decide
  letter_mem := by decide
  tag_trimmed := by decide
  tag_oneLine := by decide
  text_oneLine := by decide
  text_end := by decide

/-- An entry in both shapes. -/
theorem Processes.readLine_printed_dtag :
    Processes.empty.readLine "08-11 19:11:07.132   495   512 D dtag    : message\r\n"
      = .ok (some ⟨"08-11 19:11:07.132", 495, "?", "dtag", .debug, "message", some 512⟩, .empty) ∧
    Processes.empty.readLine "D/dtag    (  495): message\n"
      = .ok (some ⟨"", 495, "?", "dtag", .debug, "message", none⟩, .empty) := by
  obtain ⟨⟨level, hletter, htimed, hbrief⟩, _⟩ := readLine_printed .dtag .empty
  have hlevel : level = .debug := by
    rcases hletter with h | ⟨h, _⟩
    · cases level <;> first | rfl | exact absurd h (by decide)
    · exact absurd h (by decide)
  subst hlevel
  have hlearn : Processes.empty.learn LogEntry.dtag.tag.toList LogEntry.dtag.text.toList
      = .ok .empty := if_neg (by decide)
  rw [hlearn] at htimed hbrief
  refine ⟨?_, ?_⟩
  · obtain ⟨hdate, htime⟩ := sample_stamp
    have hline : ("08-11 19:11:07.132   495   512 D dtag    : message\r\n" : Text)
        = LogEntry.dtag.timed "08-11" "19:11:07.132" 512 ++ "\r\n" := by decide +kernel
    have hstamp : ("08-11" : Text) ++ " " ++ "19:11:07.132" = "08-11 19:11:07.132" := by
      decide +kernel
    have hread := htimed "08-11" "19:11:07.132" "\r\n" 512 hdate htime (by decide) (by simp)
      (by decide +kernel)
    rw [hstamp] at hread
    exact (congrArg Processes.empty.readLine hline).trans hread
  · have hline : "D/dtag    (  495): message\n" = LogEntry.dtag.brief ++ "\n" := by decide +kernel
    exact (congrArg Processes.empty.readLine hline).trans
      (hbrief "\n" (by simp) (not_hasBracket (by decide +kernel)))

/-! ## §5 Entries that tell a number -/

/-- A death line of the activity manager, for a process number of so many nines. -/
def LogLine.LogEntry.death (n : Nat) : LogEntry where
  pid := 1
  letter := 'I'
  tag := "ActivityManager"
  text := "Process x (pid " ++ Text.ofList (List.replicate n ('9' : CodePoint)) ++ ") has died"
  pid_short := by decide
  letter_mem := by decide
  tag_trimmed := by decide
  tag_oneLine := by decide
  text_oneLine := by simp
  text_end := by
    have hlast : (Text.toList ") has died").getLast? = some ('d' : CodePoint) := by decide
    rw [Text.toList_append, List.getLast?_append, hlast, Option.some_or]
    decide

/-- A death line with too many digits is not read. -/
theorem Processes.learn_death (p : Processes) {n : Nat} (hn : digitLimit < n) :
    p.learn (LogEntry.death n).tag.toList (LogEntry.death n).text.toList = .error ⟨n⟩ := by
  have hnumber : IsNumber (List.replicate n ('9' : CodePoint)) := by
    refine ⟨fun h => ?_, fun c hc => ?_⟩
    · rw [List.replicate_eq_nil_iff] at h
      omega
    · rw [List.eq_of_mem_replicate hc]
      decide
  have htext : (LogEntry.death n).text.toList
      = Text.toList "Process " ++ ([('x' : CodePoint)] ++ (Text.toList " (pid " ++
      (List.replicate n ('9' : CodePoint) ++ Text.toList ") has died"))) := by
    simp [LogEntry.death]
  have htold : ProcessEvent.told? (LogEntry.death n).tag.toList (LogEntry.death n).text.toList
      = some (List.replicate n ('9' : CodePoint)) := by
    have htag : (LogEntry.death n).tag.toList = ProcessEvent.teller.toList := rfl
    rw [ProcessEvent.told?, if_pos htag, htext,
      ProcessEvent.read_death (by simp) (List.all_eq_true.1 (by decide)) hnumber]
    rfl
  rw [learn_error_iff, htold, Option.bind_some, tooLong?, List.length_replicate, if_pos hn]

/-- An entry of the activity manager that tells a number of 4301 digits is printed, but not read. -/
theorem Processes.readLine_timed_longNumber :
    ¬ [(':' : CodePoint), ' '] <:+: (padRight 8 (LogEntry.death 4301).tag).toList ∧
    Processes.empty.readLine ((LogEntry.death 4301).timed "08-11" "19:11:07.132" 1)
      = .error ⟨4301⟩ := by
  have htag : ¬ [(':' : CodePoint), ' '] <:+: (padRight 8 (LogEntry.death 4301).tag).toList := by
    decide +kernel
  refine ⟨htag, ?_⟩
  obtain ⟨hdate, htime⟩ := sample_stamp
  have hends : ∀ c ∈ Text.toList "", c = '\r' ∨ c = '\n' := by simp
  have hread := (LogEntry.death 4301).read_timed 1 hdate htime htag rfl hends
  rw [Text.append_empty] at hread
  rw [readLine_of_read hread (readNat_decimal (LogEntry.death 4301).pid_short)
    (readTid_of_some rfl (readNat_decimal (by decide)))]
  rw [learn_death .empty (by decide)]
  rfl

end LogViewer
