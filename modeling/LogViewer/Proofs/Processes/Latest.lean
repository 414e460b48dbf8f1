import LogViewer.Proofs.Feed.Lines
import LogViewer.Proofs.Lists
import LogViewer.Proofs.Processes.Events
import Mathlib.Data.List.Induction

/-!
# The latest event of a process

The name of a process is the one that its latest start line tells, unless a death line came after
it. Each line changes what is known of the one process that it tells of, and of no other; so lines
that do not tell of a process can come and go without any effect on its messages.

## Main definitions

- `ProcessEvent.Starts`, `ProcessEvent.Dies`, `ProcessEvent.Concerns`: what a line tells of a
  process
- `ProcessEvent.LastNamed`, `ProcessEvent.LastUnnamed`: what the last line that tells of it says

## Main statements

- `Processes.name?_readLine`: what one line changes
- `Processes.name?_readLines`: what is known after some lines
- `Processes.app_of_latest`: the name in a message
-/

namespace LogViewer

open LogViewer.Text

/-! ## §1 What lines tell -/

namespace ProcessEvent

/-- A line of the activity manager tells an event. -/
def LineTells (line : Text) (event : ProcessEvent) : Prop :=
  ∃ l, LogLine.read line.toList = some l ∧ l.tag = teller.toList ∧ Tells l.text event

/-- A line tells that a process has started under a name. -/
def Starts (line : Text) (pid : Nat) (name : Text) : Prop :=
  ∃ digits, LineTells line (.started digits name.toList) ∧ digitsValue digits = pid

/-- A line tells that a process has died. -/
def Dies (line : Text) (pid : Nat) : Prop :=
  ∃ digits, LineTells line (.died digits) ∧ digitsValue digits = pid

/-- A line tells of a process. -/
def Concerns (line : Text) (pid : Nat) : Prop :=
  (∃ name, Starts line pid name) ∨ Dies line pid

/-- The last line that tells of a process says that it has started under a name. -/
def LastNamed (lines : List Text) (pid : Nat) (name : Text) : Prop :=
  ∃ earlier line later, lines = earlier ++ line :: later ∧ Starts line pid name ∧
    ∀ l ∈ later, ¬ Concerns l pid

/-- The last line that tells of a process says that it has died, or no line tells of it. -/
def LastUnnamed (lines : List Text) (pid : Nat) : Prop :=
  (∃ earlier line later, lines = earlier ++ line :: later ∧ Dies line pid ∧
    ∀ l ∈ later, ¬ Concerns l pid) ∨ ∀ l ∈ lines, ¬ Concerns l pid

/-- The event that a line tells. -/
def ofLine? (line : Text) : Option ProcessEvent :=
  (LogLine.read line.toList).bind fun l => if l.tag = teller.toList then read l.text else none

/-- The name that an event leaves its process with. -/
def name? : ProcessEvent → Option Text
  | started _ name => some (Text.ofList name)
  | died _ => none

/-- The name that a line leaves its process with. -/
def nameTold? (line : Text) : Option Text := (ofLine? line).bind name?

theorem lineTells_iff {line : Text} {event : ProcessEvent} :
    LineTells line event ↔ ofLine? line = some event := by
  unfold LineTells ofLine?
  simp only [tells_iff, Option.bind_eq_some_iff, Option.ite_none_right_eq_some]

theorem concerns_iff {line : Text} {pid : Nat} :
    Concerns line pid ↔ ∃ event, ofLine? line = some event ∧ digitsValue event.digits = pid := by
  simp only [Concerns, Starts, Dies, lineTells_iff]
  constructor
  · rintro (⟨name, digits, hevent, hpid⟩ | ⟨digits, hevent, hpid⟩)
    · exact ⟨_, hevent, hpid⟩
    · exact ⟨_, hevent, hpid⟩
  · rintro ⟨event, hevent, hpid⟩
    cases event with
    | started digits name =>
      exact .inl ⟨Text.ofList name, digits, by rwa [Text.toList_ofList], hpid⟩
    | died digits => exact .inr ⟨digits, hevent, hpid⟩

instance (line : Text) (pid : Nat) : Decidable (Concerns line pid) :=
  decidable_of_iff ((ofLine? line).any fun event => digitsValue event.digits == pid) (by
    rw [concerns_iff, Option.any_eq_true]
    simp only [beq_iff_eq])

/-- A line tells of one process at most. -/
theorem Concerns.unique {line : Text} {pid other : Nat} (h : Concerns line pid)
    (h' : Concerns line other) : pid = other := by
  obtain ⟨event, hevent, rfl⟩ := concerns_iff.1 h
  obtain ⟨event', hevent', rfl⟩ := concerns_iff.1 h'
  rw [Option.some.inj (hevent.symm.trans hevent')]

/-- Only lines of the activity manager tell of processes. -/
theorem Concerns.tag {line : Text} {pid : Nat} {l : LogLine} (h : Concerns line pid)
    (hline : LogLine.read line.toList = some l) : l.tag = teller.toList := by
  rcases h with ⟨name, digits, ⟨l', hline', htag, -⟩, -⟩ | ⟨digits, ⟨l', hline', htag, -⟩, -⟩
  · rwa [Option.some.inj (hline.symm.trans hline')]
  · rwa [Option.some.inj (hline.symm.trans hline')]

theorem Starts.nameTold? {line name : Text} {pid : Nat} (h : Starts line pid name) :
    nameTold? line = some name := by
  obtain ⟨digits, htells, -⟩ := h
  rw [ProcessEvent.nameTold?, lineTells_iff.1 htells, Option.bind_some, name?, Text.ofList_toList]

theorem Dies.nameTold? {line : Text} {pid : Nat} (h : Dies line pid) : nameTold? line = none := by
  obtain ⟨digits, htells, -⟩ := h
  rw [ProcessEvent.nameTold?, lineTells_iff.1 htells, Option.bind_some, name?]

end ProcessEvent

open ProcessEvent (Concerns Starts Dies LastNamed LastUnnamed nameTold?)

/-! ## §2 One line -/

namespace Processes

theorem name?_erase (p : Processes) (pid k : Nat) :
    (p.erase pid).name? k = if pid = k then none else p.name? k := by
  unfold erase name?
  rw [lookup_filter_ne]
  simp only [beq_iff_eq, @eq_comm _ k pid]

theorem name?_insert (p : Processes) (pid k : Nat) (name : Text) :
    (p.insert pid name).name? k = if pid = k then some name else p.name? k := by
  unfold insert erase name?
  rw [lookup_replaced]
  simp only [beq_iff_eq, @eq_comm _ k pid]

/-- A row of digits that is read has its value. -/
theorem readNat_eq_ok {digits : List CodePoint} {n : Nat} (h : readNat digits = .ok n) :
    n = digitsValue digits := by
  unfold readNat at h
  split at h
  · cases h
    rfl
  · cases h

/-- An event changes the name of its process and no other. -/
theorem name?_apply {p q : Processes} {event : ProcessEvent} (h : p.apply event = .ok q) (k : Nat) :
    q.name? k = if digitsValue event.digits = k then event.name? else p.name? k := by
  cases event with
  | started pid name =>
    obtain ⟨n, hpid, rfl⟩ := map_eq_ok_iff.1 h
    rw [name?_insert, readNat_eq_ok hpid]
    rfl
  | died pid =>
    obtain ⟨n, hpid, rfl⟩ := map_eq_ok_iff.1 h
    rw [name?_erase, readNat_eq_ok hpid]
    rfl

/-- The message of a parsed line has the name that is known after the line. -/
theorem message_eq_ok {p q : Processes} {l : LogLine} {m : Message} (h : p.message l = .ok (m, q)) :
    p.learn l.tag l.text = .ok q ∧ ∃ tid, l.readTid = .ok tid ∧
      m = ⟨Text.ofList l.timestamp, digitsValue l.pid, q.nameOf (digitsValue l.pid),
        Text.ofList l.tag, l.level, Text.ofList l.text, tid⟩ := by
  unfold message at h
  obtain ⟨tid, htid, h⟩ := bind_eq_ok_iff.1 h
  obtain ⟨pid, hpid, h⟩ := bind_eq_ok_iff.1 h
  obtain ⟨q', hlearn, h⟩ := bind_eq_ok_iff.1 h
  cases h
  obtain rfl := readNat_eq_ok hpid
  exact ⟨hlearn, tid, htid, rfl⟩

/-- What is learnt from a line is what its event tells. -/
theorem name?_learn {p q : Processes} {tag text : List CodePoint} (h : p.learn tag text = .ok q)
    (k : Nat) :
    q.name? k = match if tag = ProcessEvent.teller.toList then ProcessEvent.read text else none with
      | some event => if digitsValue event.digits = k then event.name? else p.name? k
      | none => p.name? k := by
  unfold learn at h
  by_cases htag : tag = ProcessEvent.teller.toList
  · rw [if_pos htag] at h ⊢
    cases hread : ProcessEvent.read text with
    | none =>
      rw [hread] at h
      cases h
      rfl
    | some event =>
      rw [hread] at h
      exact name?_apply h k
  · rw [if_neg htag] at h ⊢
    cases h
    rfl

/-- A line is passed over, or it is parsed and gives a message. -/
theorem readLine_cases {p q : Processes} {line : Text} {m : Option Message}
    (h : p.readLine line = .ok (m, q)) :
    (LogLine.read line.toList = none ∧ m = none ∧ q = p) ∨
    ∃ l m', LogLine.read line.toList = some l ∧ m = some m' ∧ p.message l = .ok (m', q) := by
  unfold readLine at h
  cases hline : LogLine.read line.toList with
  | none =>
    rw [hline] at h
    cases h
    exact .inl ⟨rfl, rfl, rfl⟩
  | some l =>
    rw [hline] at h
    obtain ⟨⟨m', q'⟩, hmessage, hresult⟩ := map_eq_ok_iff.1 h
    cases hresult
    exact .inr ⟨l, m', rfl, rfl, hmessage⟩

/-- A line gives the same message wherever its process is called the same. -/
theorem readLine_congr {p p' q q' : Processes} {line : Text} {m : Message} {m' : Option Message}
    {pid : Nat} (h : p.readLine line = .ok (some m, q)) (h' : p'.readLine line = .ok (m', q'))
    (hpid : m.pid = (pid : Int)) (hname : q'.nameOf pid = q.nameOf pid) : m' = some m := by
  obtain ⟨-, ⟨⟩, -⟩ | ⟨l, _, hline, ⟨⟩, hmessage⟩ := readLine_cases h
  obtain ⟨-, tid, htid, rfl⟩ := message_eq_ok hmessage
  obtain ⟨hnone, -, -⟩ | ⟨l', m'', hline', rfl, hmessage'⟩ := readLine_cases h'
  · rw [hnone] at hline
    cases hline
  · rw [hline] at hline'
    cases hline'
    obtain ⟨-, tid', htid', rfl⟩ := message_eq_ok hmessage'
    rw [htid] at htid'
    cases htid'
    obtain rfl := Int.ofNat.inj hpid
    rw [hname]

/-- The message of a line is called what its process is called after the line. -/
theorem app_of_readLine {p q : Processes} {line : Text} {m : Message}
    (h : p.readLine line = .ok (some m, q)) :
    ∃ pid : Nat, m.pid = pid ∧ m.app = q.nameOf pid := by
  obtain ⟨-, ⟨⟩, -⟩ | ⟨l, _, -, ⟨⟩, hmessage⟩ := readLine_cases h
  obtain ⟨-, tid, -, rfl⟩ := message_eq_ok hmessage
  exact ⟨_, rfl, rfl⟩

/-- A line changes the name of the process that it tells of and no other. -/
theorem name?_readLine {p q : Processes} {line : Text} {m : Option Message}
    (h : p.readLine line = .ok (m, q)) (k : Nat) :
    q.name? k = if Concerns line k then nameTold? line else p.name? k := by
  have hevent : q.name? k = match ProcessEvent.ofLine? line with
      | some event => if digitsValue event.digits = k then event.name? else p.name? k
      | none => p.name? k := by
    unfold ProcessEvent.ofLine?
    rcases readLine_cases h with ⟨hline, -, rfl⟩ | ⟨l, m', hline, -, hmessage⟩
    · rw [hline]
      rfl
    · rw [hline, Option.bind_some]
      exact name?_learn (message_eq_ok hmessage).1 k
  rw [hevent]
  simp only [ProcessEvent.concerns_iff, ProcessEvent.nameTold?]
  cases ProcessEvent.ofLine? line with
  | none => simp
  | some event => simp

/-! ## §3 Many lines -/

/-- After some lines, the last one that tells of a process decides its name. -/
theorem name?_readLines {p q : Processes} {lines : List Text} {ms : List Message}
    (h : readLines p lines = .ok (ms, q)) (k : Nat) :
    q.name? k = ((lines.filter (Concerns · k)).getLast?.map nameTold?).getD (p.name? k) := by
  induction lines generalizing p ms with
  | nil =>
    cases h
    rfl
  | cons line lines ih =>
    obtain ⟨m, p', more, hline, hmore, -⟩ := readLines_cons_iff.1 h
    rw [ih hmore, name?_readLine hline k, List.filter_cons]
    by_cases hconcerns : Concerns line k
    · rw [if_pos hconcerns, if_pos (by simpa using hconcerns), List.getLast?_cons]
      cases (lines.filter (Concerns · k)).getLast? <;> rfl
    · rw [if_neg hconcerns, if_neg (by simpa using hconcerns)]

end Processes

namespace ProcessEvent

/-- If no line of a later part tells of a process, the line before that part is the last one. -/
theorem getLast?_concerns {earlier later : List Text} {line : Text} {pid : Nat}
    (h : Concerns line pid) (hlater : ∀ l ∈ later, ¬ Concerns l pid) :
    ((earlier ++ line :: later).filter (Concerns · pid)).getLast? = some line := by
  have hnone : later.filter (Concerns · pid) = [] := by
    rw [List.filter_eq_nil_iff]
    simpa using hlater
  rw [List.filter_append, List.filter_cons_of_pos (by simpa using h), hnone,
    List.getLast?_append_cons]
  rfl

/-- The last line that tells of a process names it, or it does not. -/
theorem exists_lastNamed_or (lines : List Text) (pid : Nat) :
    (∃ name, LastNamed lines pid name) ∨ LastUnnamed lines pid := by
  induction lines using List.reverseRecOn with
  | nil => exact .inr (.inr (by simp))
  | append_singleton lines line ih =>
    by_cases hconcerns : Concerns line pid
    · -- The last line of all tells of the process.
      rcases hconcerns with ⟨name, hstarts⟩ | hdies
      · exact .inl ⟨name, lines, line, [], rfl, hstarts, by simp⟩
      · exact .inr (.inl ⟨lines, line, [], rfl, hdies, by simp⟩)
    · have hlater : ∀ later : List Text, (∀ l ∈ later, ¬ Concerns l pid) →
          ∀ l ∈ later ++ [line], ¬ Concerns l pid := by
        intro later hlater l hl
        rcases List.mem_append.1 hl with hl | hl
        · exact hlater l hl
        · rw [List.mem_singleton.1 hl]
          exact hconcerns
      rcases ih with ⟨name, earlier, told, later, rfl, hstarts, hrest⟩ |
        ⟨earlier, told, later, rfl, hdies, hrest⟩ | hnone
      · exact .inl ⟨name, earlier, told, later ++ [line], by simp, hstarts, hlater later hrest⟩
      · exact .inr (.inl ⟨earlier, told, later ++ [line], by simp, hdies, hlater later hrest⟩)
      · exact .inr (.inr (hlater lines hnone))

end ProcessEvent

namespace Processes

/-- A process whose last line names it is known by that name. -/
theorem name?_of_lastNamed {q : Processes} {lines : List Text} {ms : List Message}
    (h : readLines .empty lines = .ok (ms, q)) {pid : Nat} {name : Text}
    (hlast : LastNamed lines pid name) : q.name? pid = some name := by
  obtain ⟨earlier, line, later, rfl, hstarts, hlater⟩ := hlast
  rw [name?_readLines h, ProcessEvent.getLast?_concerns (.inl ⟨name, hstarts⟩) hlater,
    Option.map_some, hstarts.nameTold?]
  rfl

/-- A process that has died, or of which no line tells, is not known. -/
theorem name?_of_lastUnnamed {q : Processes} {lines : List Text} {ms : List Message}
    (h : readLines .empty lines = .ok (ms, q)) {pid : Nat} (hlast : LastUnnamed lines pid) :
    q.name? pid = none := by
  rw [name?_readLines h]
  rcases hlast with ⟨earlier, line, later, rfl, hdies, hlater⟩ | hnone
  · rw [ProcessEvent.getLast?_concerns (.inr hdies) hlater, Option.map_some, hdies.nameTold?]
    rfl
  · have hempty : lines.filter (Concerns · pid) = [] := by
      rw [List.filter_eq_nil_iff]
      simpa using hnone
    rw [hempty]
    rfl

/-- Lines that tell the same of a process leave it with the same name. -/
theorem name?_congr {p q q' : Processes} {lines lines' : List Text} {ms ms' : List Message}
    {pid : Nat} (h : readLines p lines = .ok (ms, q)) (h' : readLines p lines' = .ok (ms', q'))
    (hsame : lines'.filter (Concerns · pid) = lines.filter (Concerns · pid)) :
    q'.name? pid = q.name? pid := by
  rw [name?_readLines h, name?_readLines h', hsame]

/-- The message of a line has the name that the last line up to its own that tells of its process
gives it, or a question mark if that line is a death line or there is none. Other lines before it,
such as those with another tag and those that tell of other processes, and all lines after it can be
put in or left out: the message stays as it is. -/
theorem app_of_latest {lines : List Text} {front back : List Message} {m : Message}
    {names : Processes} (h : readLines .empty lines = .ok (front ++ m :: back, names)) :
    ∃ before line after p q, ∃ pid : Nat, lines = before ++ line :: after ∧
      readLines .empty before = .ok (front, p) ∧ p.readLine line = .ok (some m, q) ∧ m.pid = pid ∧
      ((∃ name, LastNamed (before ++ [line]) pid name) ∨ LastUnnamed (before ++ [line]) pid) ∧
      (∀ name, LastNamed (before ++ [line]) pid name → m.app = name) ∧
      (LastUnnamed (before ++ [line]) pid → m.app = unknown) ∧
      (∀ before' after' ms' names',
        readLines .empty (before' ++ line :: after') = .ok (ms', names') →
        before'.filter (Concerns · pid) = before.filter (Concerns · pid) →
        ∃ front' back' p', readLines .empty before' = .ok (front', p') ∧
          ms' = front' ++ m :: back') ∧
      (∀ other l, LogLine.read other.toList = some l → l.tag ≠ ProcessEvent.teller.toList →
        ¬ Concerns other pid) ∧
      ∀ other pid', Concerns other pid' → pid' ≠ pid → ¬ Concerns other pid := by
  obtain ⟨before, line, after, p, q, rfl, hbefore, hline, hafter⟩ := exists_line_of_readLines h
  obtain ⟨pid, hpid, happ⟩ := app_of_readLine hline
  have hthrough : readLines .empty (before ++ [line]) = .ok (front ++ [m], q) :=
    readLines_append_iff.2 ⟨front, p, [m], hbefore,
      readLines_cons_iff.2 ⟨some m, q, [], hline, rfl, rfl⟩, rfl⟩
  refine ⟨before, line, after, p, q, pid, rfl, hbefore, hline, hpid,
    ProcessEvent.exists_lastNamed_or _ _, ?_, ?_, ?_, ?_, ?_⟩
  · intro name hlast
    rw [happ, nameOf, name?_of_lastNamed hthrough hlast, Option.getD_some]
  · intro hlast
    rw [happ, nameOf, name?_of_lastUnnamed hthrough hlast, Option.getD_none]
  · intro before' after' ms' names' h' hsame
    obtain ⟨front', p', rest, hbefore', hrest, rfl⟩ := readLines_append_iff.1 h'
    obtain ⟨m', q', back', hline', -, rfl⟩ := readLines_cons_iff.1 hrest
    -- The line is reached with the same name for its process, so it leaves the same one.
    have hname : q'.nameOf pid = q.nameOf pid := by
      rw [nameOf, nameOf, name?_readLine hline', name?_readLine hline,
        name?_congr hbefore hbefore' hsame]
    obtain rfl := readLine_congr hline hline' hpid hname
    exact ⟨front', back', p', hbefore', rfl⟩
  · intro other l hother htag hconcerns
    exact htag (hconcerns.tag hother)
  · intro other pid' hconcerns hne hconcerns'
    exact hne (hconcerns.unique hconcerns')

/-- A process that dies and whose number is given to another one. -/
def reused : List Text :=
  ["I/ActivityManager(    1): Start proc 7:com.a/u0 for service",
    "D/a(    7): first",
    "I/ActivityManager(    1): Process com.a (pid 7) has died",
    "D/a(    7): second",
    "I/ActivityManager(    1): Start proc com.b for service: pid=7 uid=1",
    "D/b(    7): third"]

/-- The last message has the second name because the last line that tells of its process does. -/
theorem app_of_latest_reused : ∃ (front : List Message) (m : Message) (names : Processes),
    readLines .empty reused = .ok (front ++ m :: [], names) ∧ m.app = "com.b" ∧
      ∃ before line after, reused = before ++ line :: after ∧
        LastNamed (before ++ [line]) 7 "com.b" := by
  obtain ⟨front, m, names, hread, hpid, happ⟩ : ∃ (front : List Message) (m : Message)
      (names : Processes),
      readLines .empty reused = .ok (front ++ m :: [], names) ∧ m.pid = 7 ∧ m.app = "com.b" :=
    ⟨[⟨"", 1, "?", "ActivityManager", .info, "Start proc 7:com.a/u0 for service", none⟩,
        ⟨"", 7, "com.a", "a", .debug, "first", none⟩,
        ⟨"", 1, "?", "ActivityManager", .info, "Process com.a (pid 7) has died", none⟩,
        ⟨"", 7, "?", "a", .debug, "second", none⟩,
        ⟨"", 1, "?", "ActivityManager", .info, "Start proc com.b for service: pid=7 uid=1", none⟩],
      ⟨"", 7, "com.b", "b", .debug, "third", none⟩, [(7, "com.b")], rfl, rfl, rfl⟩
  refine ⟨front, m, names, hread, happ, ?_⟩
  obtain ⟨before, line, after, p, q, pid, hlines, -, -, hpid', hlast, hnamed, hunnamed, -⟩ :=
    app_of_latest hread
  obtain rfl : pid = 7 := Int.ofNat.inj (hpid'.symm.trans hpid)
  refine ⟨before, line, after, hlines, ?_⟩
  rcases hlast with ⟨name, hname⟩ | hunknown
  · rw [← happ, hnamed name hname]
    exact hname
  · rw [hunnamed hunknown] at happ
    exact absurd happ (by decide)

end Processes

end LogViewer
