import LogViewer.Proofs.LogLine.Printed

/-!
# Lines that cannot be read

A line becomes a message or is passed over, unless it has a number with too many digits: its thread,
its process, or the process that the activity manager tells. What is known of other processes does
not matter. Such a number is written in the line, and it ends the feed.

## Main definitions

- `LogLine.numbers`: the numbers of a line that are read
- `LogLine.fault?`: the first one with too many digits

## Main statements

- `Processes.readLine_error_iff`: a line fails exactly at such a number
- `LogLine.row_of_fault?`: the number is a row of digits in the line
- `deliver_fault`: a feed ends early exactly at the first such line
-/

namespace LogViewer

open LogViewer.Text

/-! ## §1 Numbers that are read -/

namespace LogLine

/-- The numbers of a line in the order in which they are read: the thread, the process, and the
process that the activity manager tells. -/
def numbers (l : LogLine) : List (List CodePoint) :=
  l.tid.toList ++ l.pid :: (ProcessEvent.told? l.tag l.text).toList

/-- The fault of a line: the first number that has too many digits. -/
def fault? (line : List CodePoint) : Option TooManyDigits :=
  (read line).bind fun l => l.numbers.findSome? tooLong?

end LogLine

/-- The first number with too many digits, in the order in which they are read. -/
theorem LogLine.findSome?_numbers (l : LogLine) :
    l.numbers.findSome? tooLong? = (l.tid.bind tooLong?).or
      ((tooLong? l.pid).or ((ProcessEvent.told? l.tag l.text).bind tooLong?)) := by
  have hfirst : ∀ ds : Option (List CodePoint),
      ds.toList.findSome? tooLong? = ds.bind tooLong? := by
    intro ds
    cases ds with
    | none => rfl
    | some ds => simp
  unfold numbers
  rw [List.findSome?_append, hfirst, List.findSome?_cons, hfirst]
  cases tooLong? l.pid <;> rfl

/-- The thread of a line is read unless its number has too many digits. -/
theorem LogLine.readTid_eq (l : LogLine) :
    l.readTid = match l.tid.bind tooLong? with
      | some e => .error e
      | none => .ok (l.tid.map fun digits => (digitsValue digits : Int)) := by
  unfold readTid
  cases l.tid with
  | none => rfl
  | some digits =>
    dsimp only
    rw [Text.readNat_eq, Option.bind_some]
    cases tooLong? digits <;> rfl

/-- The message of a line fails exactly at its first number with too many digits. -/
theorem Processes.message_error_iff {p : Processes} {l : LogLine} {e : TooManyDigits} :
    p.message l = .error e ↔ l.numbers.findSome? tooLong? = some e := by
  rw [l.findSome?_numbers]
  unfold message
  rw [l.readTid_eq, Text.readNat_eq]
  cases l.tid.bind tooLong? with
  | some fault => simp [bind, Except.bind]
  | none =>
    cases tooLong? l.pid with
    | some fault => simp [bind, Except.bind]
    | none =>
      rw [Option.none_or, Option.none_or, ← learn_error_iff]
      cases p.learn l.tag l.text <;> simp [bind, Except.bind, pure, Except.pure]

/-- A line fails exactly if one of its numbers has too many digits, whatever names are known. -/
theorem Processes.readLine_error_iff {p : Processes} {line : Text} {e : TooManyDigits} :
    p.readLine line = .error e ↔ LogLine.fault? line.toList = some e := by
  unfold readLine LogLine.fault?
  cases LogLine.read line.toList with
  | none => simp
  | some l =>
    rw [Option.bind_some, ← p.message_error_iff]
    exact map_eq_error_iff

/-! ## §2 Where the numbers stand -/

namespace LogLine

/-- The digits that are read stand at the beginning. -/
theorem digits?_isInfix {s ds rest : List CodePoint} (h : digits? s = some (ds, rest)) :
    ds <:+: s := by
  rw [(digits?_eq_some_iff.1 h).1]
  exact (List.prefix_append ds rest).isInfix

/-- The pieces of a line with date and time stand in it. -/
theorem readTimed_pieces {s : List CodePoint} {l : LogLine} (h : readTimed s = some l) :
    (IsNumber l.pid ∧ l.pid <:+: s) ∧ (∀ tid ∈ l.tid, IsNumber tid ∧ tid <:+: s) ∧
      l.text <:+: s := by
  obtain ⟨head, level, gap, rest, before, text, rfl, -, -, -, hcut, -, rfl⟩ := readTimed_eq_some_iff.1 h
  have hhead : head.chars <:+: head.chars ++ gap ++ rest := ⟨[], gap ++ rest, by simp⟩
  refine ⟨⟨head.pid_isNumber, .trans ?_ hhead⟩, ?_, ?_⟩
  · exact ⟨head.date ++ head.afterDate ++ head.time ++ head.afterTime,
      head.afterPid ++ head.tid ++ head.afterTid ++ [head.letter], by simp [TimedHead.chars]⟩
  · rintro _ ⟨⟩
    refine ⟨head.tid_isNumber, .trans ?_ hhead⟩
    exact ⟨head.date ++ head.afterDate ++ head.time ++ head.afterTime ++ head.pid ++ head.afterPid,
      head.afterTid ++ [head.letter], by simp [TimedHead.chars]⟩
  · exact ⟨head.chars ++ gap ++ before ++ [(':' : CodePoint), ' '], [], by simp [hcut.eq]⟩

/-- The pieces of a brief line stand in it. -/
theorem readBrief_pieces {s : List CodePoint} {l : LogLine} (h : readBrief s = some l) :
    (IsNumber l.pid ∧ l.pid <:+: s) ∧ (∀ tid ∈ l.tid, IsNumber tid ∧ tid <:+: s) ∧
      l.text <:+: s := by
  obtain ⟨letter, level, rest, before, b, text, rfl, -, hcut, -, rfl⟩ := readBrief_eq_some_iff.1 h
  rw [hcut.eq]
  refine ⟨⟨b.pid_isNumber, ?_⟩, ?_, ?_⟩
  · exact ⟨letter :: .char '/' :: (before ++ .char '(' :: b.spaces),
      [(')' : CodePoint), ':', ' '] ++ text,
      by simp [Bracket.chars]⟩
  · rintro tid ⟨⟩
  · exact ⟨letter :: '/' :: (before ++ b.chars), [], by simp⟩

/-- The pieces of a line of either shape stand in it. -/
theorem read_pieces {line : List CodePoint} {l : LogLine} (h : read line = some l) :
    (IsNumber l.pid ∧ l.pid <:+: line) ∧ (∀ tid ∈ l.tid, IsNumber tid ∧ tid <:+: line) ∧
      l.text <:+: line := by
  have hwithout : withoutLineEnd line <:+: line := by
    obtain ⟨ending, hline, -⟩ := withoutLineEnd_eq_iff.1 (rfl : withoutLineEnd line = _)
    exact ⟨[], ending, hline.symm⟩
  have hpieces : (IsNumber l.pid ∧ l.pid <:+: withoutLineEnd line) ∧
      (∀ tid ∈ l.tid, IsNumber tid ∧ tid <:+: withoutLineEnd line) ∧
      l.text <:+: withoutLineEnd line := by
    rcases Option.or_eq_some_iff.1 h with htimed | ⟨-, hbrief⟩
    · exact readTimed_pieces htimed
    · exact readBrief_pieces hbrief
  obtain ⟨⟨hpid, hwithin⟩, htid, htext⟩ := hpieces
  exact ⟨⟨hpid, hwithin.trans hwithout⟩,
    fun tid hmem => ⟨(htid tid hmem).1, (htid tid hmem).2.trans hwithout⟩, htext.trans hwithout⟩

end LogLine

namespace ProcessEvent

theorem after?_suffix {beginning s rest : List CodePoint} (h : after? beginning s = some rest) :
    rest <:+ s := by
  unfold after? at h
  split at h
  · cases h
    exact List.drop_suffix ..
  · cases h

theorem run?_suffix {holds : CodePoint → Bool} {s row rest : List CodePoint}
    (h : run? holds s = some (row, rest)) : rest <:+ s := by
  rw [(run?_eq_some_iff.1 h).1]
  exact List.suffix_append row rest

/-- The number that is announced stands in the text. -/
theorem announcedPid?_isInfix {s pid : List CodePoint} (h : announcedPid? s = some pid) :
    IsNumber pid ∧ pid <:+: s := by
  induction s with
  | nil => cases h
  | cons c s ih =>
    rw [announcedPid?] at h
    split at h
    · next hread =>
      cases h
      simp only [Option.bind_eq_bind, Option.bind_eq_some_iff, Prod.exists, Option.pure_def,
        Option.some.injEq] at hread
      obtain ⟨s₁, hword, pid', s₂, hpid, s₃, -, rfl⟩ := hread
      exact ⟨(LogLine.digits?_eq_some_iff.1 hpid).2.1,
        (LogLine.digits?_isInfix hpid).trans (after?_suffix hword).isInfix⟩
    · split at h
      · cases h
      · obtain ⟨hnumber, hwithin⟩ := ih h
        exact ⟨hnumber, hwithin.trans (List.suffix_cons c s).isInfix⟩

/-- The number of an event stands in the text. -/
theorem digits_isInfix {text : List CodePoint} {event : ProcessEvent} (h : read text = some event) :
    IsNumber event.digits ∧ event.digits <:+: text := by
  unfold read at h
  rw [Option.or_eq_some_iff, Option.or_eq_some_iff] at h
  rcases h with hstart | ⟨-, hstart | ⟨-, hdeath⟩⟩
  · simp only [numberedStart?, Option.bind_eq_bind, Option.bind_eq_some_iff, Prod.exists,
      Option.pure_def, Option.some.injEq] at hstart
    obtain ⟨s₁, hword, pid, s₂, hpid, -, -, name, -, -, -, -, -, -, -, -, -, rfl⟩ := hstart
    exact ⟨(LogLine.digits?_eq_some_iff.1 hpid).2.1,
      (LogLine.digits?_isInfix hpid).trans (after?_suffix hword).isInfix⟩
  · simp only [namedStart?, Option.bind_eq_bind, Option.bind_eq_some_iff, Prod.exists,
      Option.pure_def, Option.some.injEq] at hstart
    obtain ⟨s₁, hword, name, s₂, hname, s₃, hfor, pid, hpid, rfl⟩ := hstart
    obtain ⟨hnumber, hwithin⟩ := announcedPid?_isInfix hpid
    have hs₃ : s₃ <:+ text := (after?_suffix hfor).trans ((run?_suffix hname).trans
      (after?_suffix hword))
    exact ⟨hnumber, hwithin.trans hs₃.isInfix⟩
  · simp only [death?, Option.bind_eq_bind, Option.bind_eq_some_iff, Prod.exists,
      Option.pure_def, Option.some.injEq] at hdeath
    obtain ⟨s₁, hword, name, s₂, hname, s₃, hmark, pid, s₄, hpid, -, -, rfl⟩ := hdeath
    have hs₃ : s₃ <:+ text := (after?_suffix hmark).trans ((run?_suffix hname).trans
      (after?_suffix hword))
    exact ⟨(LogLine.digits?_eq_some_iff.1 hpid).2.1,
      (LogLine.digits?_isInfix hpid).trans hs₃.isInfix⟩

end ProcessEvent

/-- The numbers of a line are rows of digits in it. -/
theorem LogLine.numbers_isInfix {line : List CodePoint} {l : LogLine} (h : read line = some l)
    {ds : List CodePoint} (hds : ds ∈ l.numbers) : IsNumber ds ∧ ds <:+: line := by
  obtain ⟨hpid, htid, htext⟩ := read_pieces h
  unfold numbers at hds
  rw [List.mem_append, List.mem_cons, Option.mem_toList, Option.mem_toList] at hds
  rcases hds with hds | rfl | hds
  · exact htid ds hds
  · exact hpid
  · unfold ProcessEvent.told? at hds
    split at hds
    · obtain ⟨event, hread, rfl⟩ := Option.map_eq_some_iff.1 hds
      obtain ⟨hnumber, hwithin⟩ := ProcessEvent.digits_isInfix hread
      exact ⟨hnumber, hwithin.trans htext⟩
    · cases hds

/-- A line fails only at a row of too many digits in it. -/
theorem LogLine.row_of_fault? {line : List CodePoint} {e : TooManyDigits}
    (h : fault? line = some e) :
    ∃ ds, IsNumber ds ∧ ds <:+: line ∧ digitLimit < ds.length ∧ e.count = ds.length := by
  obtain ⟨l, hread, hfirst⟩ := Option.bind_eq_some_iff.1 h
  obtain ⟨ds, hds, hlong⟩ := List.exists_of_findSome?_eq_some hfirst
  obtain ⟨hnumber, hwithin⟩ := numbers_isInfix hread hds
  unfold tooLong? at hlong
  split at hlong
  · next hlength =>
    cases hlong
    exact ⟨ds, hnumber, hwithin, hlength, rfl⟩
  · cases hlong

/-! ## §3 Feeds -/

/-- A feed ends early exactly at the first line that fails, whatever came before. -/
theorem deliver_fault (size : Nat) (p : Processes) (batch : List Message) (lines : List Text) :
    (deliver size p batch lines).fault
      = lines.findSome? fun line => LogLine.fault? line.toList := by
  induction lines generalizing p batch with
  | nil => rfl
  | cons line lines ih =>
    rw [deliver, List.findSome?_cons]
    cases hread : p.readLine line with
    | error e =>
      rw [Processes.readLine_error_iff.1 hread]
    | ok r =>
      -- A line that is read has no fault, so the first one is among the lines behind it.
      have hnone : LogLine.fault? line.toList = none := by
        rw [Option.eq_none_iff_forall_not_mem]
        intro e he
        rw [Processes.readLine_error_iff.2 he] at hread
        cases hread
      rw [hnone]
      obtain ⟨m, p'⟩ := r
      cases m with
      | none => exact ih p' batch
      | some m =>
        dsimp only
        split
        · exact ih p' []
        · exact ih p' (batch ++ [m])

/-- The level of the letter of a line is found by the reader of levels too. -/
theorem LogLine.parse_of_levelOf? {c : CodePoint} {level : Level} (h : levelOf? c = some level) :
    Level.parse (.ofList [c]) = .ok level := by
  unfold levelOf? at h
  split at h
  all_goals cases h
  all_goals rfl

/-- Reading a line gives a message or passes it over, unless it has a number of more digits than can
be read: then it fails, whatever names are known. Such a number is written in the line, and the
letter of the level is never at fault. A feed is read to its end unless one of its lines fails, and
ends at the first line that does. -/
theorem readLine_total (p : Processes) (line : Text) :
    (∀ e, p.readLine line = .error e ↔ LogLine.fault? line.toList = some e) ∧
    (∀ e, LogLine.fault? line.toList = some e →
      ∃ ds, IsNumber ds ∧ ds <:+: line.toList ∧ digitLimit < ds.length ∧ e.count = ds.length) ∧
    (∀ (size : Nat) (batch : List Message) (lines : List Text),
      (deliver size p batch lines).fault
        = lines.findSome? fun line => LogLine.fault? line.toList) ∧
    ∀ (c : CodePoint) (level : Level), LogLine.levelOf? c = some level →
      Level.parse (.ofList [c]) = .ok level :=
  ⟨fun _ => Processes.readLine_error_iff, fun _ => LogLine.row_of_fault?,
    fun size => deliver_fault size p, fun _ _ => LogLine.parse_of_levelOf?⟩

/-- A line of the activity manager with a number of 4301 digits cannot be read. -/
theorem Processes.readLine_death (p : Processes) :
    p.readLine (LogLine.LogEntry.death 4301).brief = .error ⟨4301⟩ := by
  have hbracket : ¬ LogLine.HasBracket (padRight 8 (LogLine.LogEntry.death 4301).tag).toList :=
    LogLine.not_hasBracket (by decide +kernel)
  have hparts : LogLine.read ((LogLine.LogEntry.death 4301).brief ++ "").toList = _ :=
    (LogLine.LogEntry.death 4301).read_brief hbracket rfl (by simp)
  rw [Text.append_empty] at hparts
  have hpid := readNat_decimal (LogLine.LogEntry.death 4301).pid_short
  rw [Processes.readLine_of_read hparts hpid rfl, Processes.learn_death p (by decide)]
  rfl

/-- A line of the activity manager with a number of 4301 digits ends the feed, and the line after it
is not read. -/
theorem deliver_longNumber :
    Processes.empty.readLine (LogLine.LogEntry.death 4301).brief = .error ⟨4301⟩ ∧
    deliver 1 .empty [] [(LogLine.LogEntry.death 4301).brief, "I/a(    1): b"]
      = ⟨[], some ⟨4301⟩, .empty⟩ := by
  refine ⟨Processes.readLine_death .empty, ?_⟩
  rw [deliver, Processes.readLine_death]

end LogViewer
