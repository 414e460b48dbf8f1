import LogViewer.Proofs.LogLine.Counted
import LogViewer.Proofs.LogLine.Patterns
import LogViewer.Proofs.Processes.Latest

/-!
# Lines that are accepted

Of the lines without line ends exactly those of the two shapes become messages. The tag of such a
line is what stands before the first separator, trimmed, and its text is all that stands behind it.
Other lines are passed over.

## Main definitions

- `LogLine.Timed`, `LogLine.Brief`: the lines of the two shapes
- `LogLine.HasShape`: a line of either shape

## Main statements

- `LogLine.Timed.readTimed_eq`, `LogLine.Brief.readBrief_eq`: what is read of such a line
- `Processes.readLine_shapes`: the message of a line, if it has one
-/

namespace LogViewer

open LogViewer.Text

namespace LogLine

/-! ## §1 The lines of the two shapes -/

/-- A line begins with date, time, process, thread and level, and behind the white space after them
its rest has a colon and a space. -/
structure Timed (s : List CodePoint) (head : TimedHead) (rest : List CodePoint) : Prop where
  split : ∃ gap, s = head.chars ++ gap ++ rest ∧ IsGap gap
  next : ∀ c ∈ rest.head?, isBlank c = false
  colon : [(':' : CodePoint), ' '] <:+: rest

/-- A line begins with a level and a slash, and its rest has a process number in parentheses behind
at least one character. -/
structure Brief (s : List CodePoint) (letter : CodePoint) (rest : List CodePoint) : Prop where
  split : s = letter :: '/' :: rest
  letter_mem : letter ∈ letters
  bracket : ∃ (front : List CodePoint) (b : Bracket), 1 ≤ front.length ∧ front ++ b.chars <+: rest

/-- A line of one of the two shapes. -/
def HasShape (s : List CodePoint) : Prop :=
  (∃ head rest, Timed s head rest) ∨ ∃ letter rest, Brief s letter rest

/-- A text without line ends is left as it is. -/
theorem withoutLineEnd_eq_self {s : List CodePoint} (hline : ('\n' : CodePoint) ∉ s)
    (hend : s.getLast? ≠ some ('\r' : CodePoint)) :
    withoutLineEnd s = s := by
  refine withoutLineEnd_eq_iff.2 ⟨[], (List.append_nil s).symm, List.forall_mem_nil _, fun c hc => ⟨?_, ?_⟩⟩
  · rintro rfl
    exact hend hc
  · rintro rfl
    exact hline (List.mem_of_getLast? hc)

section OneLine

variable {s rest before text : List CodePoint}

/-- On one line a colon and a space can stand anywhere. -/
theorem firstCut_colon_iff (hline : ('\n' : CodePoint) ∉ rest) :
    FirstCut ColonHere 0 rest before ([(':' : CodePoint), ' '] ++ text) ↔
      FirstCut ([(':' : CodePoint), ' '] <+: ·) 0 rest before
        ([(':' : CodePoint), ' '] ++ text) := by
  have hhere : ∀ t, t <:+ rest → (ColonHere t ↔ [(':' : CodePoint), ' '] <+: t) := by
    intro t ht
    have hnot : ('\n' : CodePoint) ∉ t := fun hmem => hline (ht.subset hmem)
    constructor
    · rintro ⟨text, rfl, -⟩
      exact List.prefix_append ..
    · rintro ⟨text, rfl⟩
      exact ⟨text, rfl, fun hmem => hnot (List.mem_append_right _ hmem)⟩
  exact ⟨fun h => h.congr hhere, fun h => h.congr fun t ht => (hhere t ht).symm⟩

/-- On one line a process number in parentheses can stand anywhere behind the front. -/
theorem firstCut_bracket_iff (hline : ('\n' : CodePoint) ∉ rest) {b : Bracket} :
    FirstCut BracketHere 1 rest before (b.chars ++ text) ↔
      FirstCut (fun t => ∃ b : Bracket, b.chars <+: t) 1 rest before (b.chars ++ text) := by
  have hhere : ∀ t, t <:+ rest → (BracketHere t ↔ ∃ b : Bracket, b.chars <+: t) := by
    intro t ht
    have hnot : ('\n' : CodePoint) ∉ t := fun hmem => hline (ht.subset hmem)
    constructor
    · rintro ⟨b, text, rfl, -⟩
      exact ⟨b, List.prefix_append ..⟩
    · rintro ⟨b, text, rfl⟩
      exact ⟨b, text, rfl, fun hmem => hnot (List.mem_append_right _ hmem)⟩
  exact ⟨fun h => h.congr hhere, fun h => h.congr fun t ht => (hhere t ht).symm⟩

/-- A line with date and time is cut at the first colon and space. -/
theorem Timed.readTimed_eq {head : TimedHead} (h : Timed s head rest)
    (hline : ('\n' : CodePoint) ∉ s) :
    ∃ (level : Level) (before text : List CodePoint), levelOf? head.letter = some level ∧
      FirstCut ([(':' : CodePoint), ' '] <+: ·) 0 rest before ([(':' : CodePoint), ' '] ++ text) ∧
      readTimed s = some ⟨head.date ++ [(' ' : CodePoint)] ++ head.time, head.pid, some head.tid,
        level, trim before,
        text⟩ := by
  obtain ⟨⟨gap, rfl, hgap⟩, hnext, front, back, hcolon⟩ := h
  have hrest : ('\n' : CodePoint) ∉ rest := fun hmem => hline (List.mem_append_right _ hmem)
  obtain ⟨level, hlevel⟩ := Option.isSome_iff_exists.1 (isSome_levelOf?_iff.2 head.letter_mem)
  have hsplit : rest = front ++ ([(':' : CodePoint), ' '] ++ back) := by
    rw [← hcolon, List.append_assoc]
  obtain ⟨before, after, hcut⟩ :=
    exists_firstCut ([(':' : CodePoint), ' '] <+: ·) hsplit (Nat.zero_le _)
    (List.prefix_append ..)
  obtain ⟨text, rfl⟩ := hcut.here
  have hbefore : before <+: rest := ⟨_, hcut.eq.symm⟩
  refine ⟨level, before, text, hlevel, hcut, readTimed_eq_some_iff.2
    ⟨head, level, gap, rest, before, text, rfl, hlevel, hgap, hnext, (firstCut_colon_iff hrest).2 hcut,
      fun hmem => hrest (hbefore.subset (trimRight_subset _ hmem)), ?_⟩⟩
  rw [trim_of_head (isBlank_head_of_isPrefix hbefore hnext)]

/-- Only a line with date and time is read as one. -/
theorem timed_of_readTimed {l : LogLine} (h : readTimed s = some l) :
    ∃ head rest, Timed s head rest := by
  obtain ⟨head, -, gap, rest, before, text, rfl, -, hgap, hnext, hcut, -⟩ := readTimed_eq_some_iff.1 h
  refine ⟨head, rest, ⟨gap, rfl, hgap⟩, hnext, before, text, ?_⟩
  rw [hcut.eq, List.append_assoc]

/-- A brief line is cut at the first process number in parentheses behind its front. -/
theorem Brief.readBrief_eq {letter : CodePoint} (h : Brief s letter rest)
    (hline : ('\n' : CodePoint) ∉ s) :
    ∃ (level : Level) (before : List CodePoint) (b : Bracket) (text : List CodePoint),
      levelOf? letter = some level ∧
      FirstCut (fun t => ∃ b : Bracket, b.chars <+: t) 1 rest before (b.chars ++ text) ∧
      readBrief s = some ⟨[], b.pid, none, level, trim before, text⟩ := by
  obtain ⟨rfl, hletter, front, b', hfront, back, hbracket⟩ := h
  have hrest : ('\n' : CodePoint) ∉ rest := fun hmem =>
    hline (List.mem_cons_of_mem _ (List.mem_cons_of_mem _ hmem))
  obtain ⟨level, hlevel⟩ := Option.isSome_iff_exists.1 (isSome_levelOf?_iff.2 hletter)
  have hsplit : rest = front ++ (b'.chars ++ back) := by rw [← hbracket, List.append_assoc]
  obtain ⟨before, after, hcut⟩ := exists_firstCut (fun t => ∃ b : Bracket, b.chars <+: t) hsplit
    hfront ⟨b', List.prefix_append ..⟩
  obtain ⟨b, text, rfl⟩ := hcut.here
  have hbefore : before <+: rest := ⟨_, hcut.eq.symm⟩
  exact ⟨level, before, b, text, hlevel, hcut, readBrief_eq_some_iff.2
    ⟨letter, level, rest, before, b, text, rfl, hlevel, (firstCut_bracket_iff hrest).2 hcut,
      fun hmem => hrest (hbefore.subset hmem), rfl⟩⟩

/-- Only a brief line is read as one. -/
theorem brief_of_readBrief {l : LogLine} (h : readBrief s = some l) :
    ∃ letter rest, Brief s letter rest := by
  obtain ⟨letter, level, rest, before, b, text, rfl, hlevel, hcut, -⟩ := readBrief_eq_some_iff.1 h
  refine ⟨letter, rest, rfl, isSome_levelOf?_iff.1 (hlevel ▸ rfl), before, b, hcut.least_le, text, ?_⟩
  rw [hcut.eq, List.append_assoc]

/-- A brief line does not begin with a date. -/
theorem Brief.readTimed_eq_none {letter : CodePoint} (h : Brief s letter rest) :
    readTimed s = none := by
  rw [Option.eq_none_iff_forall_not_mem]
  intro l hl
  -- The line would begin with a digit, which is the letter of no level.
  obtain ⟨head, rest', ⟨gap, hsplit, -⟩, -, -⟩ := timed_of_readTimed hl
  obtain ⟨a, b, c, d, hdate, hdigits⟩ := head.date_isDate
  have hletter := (isBlank_letter h.letter_mem).2
  rw [h.split, TimedHead.chars, hdate] at hsplit
  obtain ⟨rfl, -⟩ := List.cons.inj hsplit
  simp [hletter] at hdigits

end OneLine

end LogLine

/-! ## §2 Messages -/

open LogLine

/-- The thread of a line that has no fault. -/
theorem LogLine.readTid_eq_ok {l : LogLine} {tid : Option Int} (h : l.readTid = .ok tid) :
    tid = l.tid.map fun digits => (digitsValue digits : Int) := by
  rw [l.readTid_eq] at h
  split at h
  · cases h
  · exact (Except.ok.inj h).symm

namespace Processes

/-- The message of a line that is read without a fault. -/
theorem message_of_read {p p' : Processes} {line : Text} {m : Option Message} {l : LogLine}
    (hread : read line.toList = some l) (h : p.readLine line = .ok (m, p')) :
    p.learn l.tag l.text = .ok p' ∧
      m = some ⟨Text.ofList l.timestamp, digitsValue l.pid, p'.nameOf (digitsValue l.pid),
        Text.ofList l.tag, l.level, Text.ofList l.text,
        l.tid.map fun digits => (digitsValue digits : Int)⟩ := by
  obtain ⟨hnone, -, -⟩ | ⟨l', m', hread', rfl, hmessage⟩ := readLine_cases h
  · rw [hread] at hnone
    cases hnone
  · rw [hread] at hread'
    cases hread'
    obtain ⟨hlearn, tid, htid, rfl⟩ := message_eq_ok hmessage
    rw [readTid_eq_ok htid]
    exact ⟨hlearn, rfl⟩

section Shapes

variable {p p' : Processes} {line : Text} {m : Option Message}
    (hline : ('\n' : CodePoint) ∉ line.toList)
  (hend : line.toList.getLast? ≠ some ('\r' : CodePoint)) (h : p.readLine line = .ok (m, p'))

include hline hend

/-- A line without line ends is read as it is. -/
theorem read_of_plain : LogLine.read line.toList = (readTimed line.toList).or (readBrief line.toList) := by
  rw [LogLine.read, withoutLineEnd_eq_self hline hend]

include h

/-- The message of a line with date and time. -/
theorem readLine_timed {head : TimedHead} {rest : List CodePoint}
    (hshape : Timed line.toList head rest) :
    ∃ (level : Level) (before text : List CodePoint), levelOf? head.letter = some level ∧
      FirstCut ([(':' : CodePoint), ' '] <+: ·) 0 rest before ([(':' : CodePoint), ' '] ++ text) ∧
      p.learn (trim before) text = .ok p' ∧
      m = some ⟨Text.ofList (head.date ++ [(' ' : CodePoint)] ++ head.time), digitsValue head.pid,
        p'.nameOf (digitsValue head.pid), Text.ofList (trim before), level, Text.ofList text,
        some (digitsValue head.tid)⟩ := by
  have hread := read_of_plain hline hend
  obtain ⟨level, before, text, hlevel, hcut, hpieces⟩ := hshape.readTimed_eq hline
  rw [hpieces, Option.some_or] at hread
  exact ⟨level, before, text, hlevel, hcut, message_of_read hread h⟩

/-- The message of a brief line. -/
theorem readLine_brief {letter : CodePoint} {rest : List CodePoint}
    (hshape : Brief line.toList letter rest) :
    ∃ (level : Level) (before : List CodePoint) (b : Bracket) (text : List CodePoint),
      levelOf? letter = some level ∧
      FirstCut (fun t => ∃ b : Bracket, b.chars <+: t) 1 rest before (b.chars ++ text) ∧
      p.learn (trim before) text = .ok p' ∧
      m = some ⟨"", digitsValue b.pid, p'.nameOf (digitsValue b.pid), Text.ofList (trim before),
        level, Text.ofList text, none⟩ := by
  have hread := read_of_plain hline hend
  obtain ⟨level, before, b, text, hlevel, hcut, hpieces⟩ := hshape.readBrief_eq hline
  rw [hshape.readTimed_eq_none, Option.none_or, hpieces] at hread
  exact ⟨level, before, b, text, hlevel, hcut, message_of_read hread h⟩

/-- A line of neither shape is passed over. -/
theorem readLine_neither (hshape : ¬ HasShape line.toList) : m = none ∧ p' = p := by
  obtain ⟨-, hm, hp⟩ | ⟨l, -, hread, -, -⟩ := readLine_cases h
  · exact ⟨hm, hp⟩
  · rw [read_of_plain hline hend] at hread
    obtain hread | ⟨-, hread⟩ := Option.or_eq_some_iff.1 hread
    · exact absurd (.inl (timed_of_readTimed hread)) hshape
    · exact absurd (.inr (brief_of_readBrief hread)) hshape

end Shapes

/-- A line without line ends that can be read becomes a message exactly if it is of one of the two
shapes. Its tag ends at the first separator, and its text is what follows the separator; a line of
neither shape tells nothing. This is what the first match of the two patterns gives, whatever else
they could match. -/
theorem readLine_shapes {p p' : Processes} {line : Text} {m : Option Message}
    (hline : ('\n' : CodePoint) ∉ line.toList)
    (hend : line.toList.getLast? ≠ some ('\r' : CodePoint))
    (h : p.readLine line = .ok (m, p')) :
    (m.isSome = true ↔ HasShape line.toList) ∧
    (∀ head rest, Timed line.toList head rest →
      ∃ (level : Level) (before text : List CodePoint), levelOf? head.letter = some level ∧
        FirstCut ([(':' : CodePoint), ' '] <+: ·) 0 rest before ([(':' : CodePoint), ' '] ++ text) ∧
        p.learn (trim before) text = .ok p' ∧
        m = some ⟨Text.ofList (head.date ++ [(' ' : CodePoint)] ++ head.time), digitsValue head.pid,
          p'.nameOf (digitsValue head.pid), Text.ofList (trim before), level, Text.ofList text,
          some (digitsValue head.tid)⟩) ∧
    (∀ letter rest, Brief line.toList letter rest →
      ∃ (level : Level) (before : List CodePoint) (b : Bracket) (text : List CodePoint),
        levelOf? letter = some level ∧
        FirstCut (fun t => ∃ b : Bracket, b.chars <+: t) 1 rest before (b.chars ++ text) ∧
        p.learn (trim before) text = .ok p' ∧
        m = some ⟨"", digitsValue b.pid, p'.nameOf (digitsValue b.pid), Text.ofList (trim before),
          level, Text.ofList text, none⟩) ∧
    (¬ HasShape line.toList → m = none ∧ p' = p) ∧
    LogLine.read line.toList
      = ((firstMatch? timedPattern line.toList).bind (timedLine line.toList.toArray)).or
        ((firstMatch? briefPattern line.toList).bind (briefLine line.toList.toArray)) := by
  refine ⟨⟨fun hm => ?_, ?_⟩, fun _ _ => readLine_timed hline hend h,
    fun _ _ => readLine_brief hline hend h, readLine_neither hline hend h, ?_⟩
  · by_contra hnot
    rw [(readLine_neither hline hend h hnot).1] at hm
    cases hm
  · rintro (⟨head, rest, hshape⟩ | ⟨letter, rest, hshape⟩)
    · obtain ⟨level, before, text, -, -, -, rfl⟩ := readLine_timed hline hend h hshape
      rfl
    · obtain ⟨level, before, b, text, -, -, -, rfl⟩ := readLine_brief hline hend h hshape
      rfl
  · -- Nothing is cut off the end of such a line before it is matched.
    have hmatch := read_eq_firstMatch? line.toList
    rwa [withoutLineEnd_eq_self hline hend] at hmatch

/-- A tag that begins with a colon, a tag with parentheses at its front, and a banner. -/
theorem readLine_shapes_samples :
    (HasShape (Text.toList "08-11 19:11:07.132  495 512 D \t :a : b : c") ∧
      Processes.empty.readLine "08-11 19:11:07.132  495 512 D \t :a : b : c"
        = .ok (some ⟨"08-11 19:11:07.132", 495, "?", ":a", .debug, "b : c", some 512⟩, .empty)) ∧
    (HasShape (Text.toList "D/(1): x( 2): y") ∧
      Processes.empty.readLine "D/(1): x( 2): y"
        = .ok (some ⟨"", 2, "?", "(1): x", .debug, "y", none⟩, .empty)) ∧
    ¬ HasShape (Text.toList "--------- beginning of main") := by
  have htimed : Processes.empty.readLine "08-11 19:11:07.132  495 512 D \t :a : b : c"
      = .ok (some ⟨"08-11 19:11:07.132", 495, "?", ":a", .debug, "b : c", some 512⟩, .empty) := by
    decide +kernel
  have hbrief : Processes.empty.readLine "D/(1): x( 2): y"
      = .ok (some ⟨"", 2, "?", "(1): x", .debug, "y", none⟩, .empty) := by decide +kernel
  have hbanner : Processes.empty.readLine "--------- beginning of main" = .ok (none, .empty) := by
    decide +kernel
  refine ⟨⟨?_, htimed⟩, ⟨?_, hbrief⟩, fun hshape => ?_⟩
  · exact (readLine_shapes (by decide +kernel) (by decide +kernel) htimed).1.1 rfl
  · exact (readLine_shapes (by decide +kernel) (by decide +kernel) hbrief).1.1 rfl
  · have hsome := (readLine_shapes (by decide +kernel) (by decide +kernel) hbanner).1.2 hshape
    cases hsome

end Processes

end LogViewer
