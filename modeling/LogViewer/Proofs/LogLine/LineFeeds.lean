import LogViewer.Proofs.Feed.Lines
import LogViewer.Proofs.LogLine.Counted
import LogViewer.Proofs.Processes.Latest
import Mathlib.Data.Nat.Digits.Defs

/-!
# Line feeds in log lines

A line that comes in can have line feeds in its middle. Where the shape of a log line has white
space, a line feed is as good as a space; but date and time consist of digits and signs, and neither
the tag nor the text goes past a line feed. So the message of any line is printed on one line.

## Main definitions

- `LogLine.Unbroken`, `Message.OnOneLine`: no piece has a line feed
- `Message.IsRead`: a message that some line gives

## Main statements

- `LogLine.unbroken_read`: the pieces of every line
- `Message.OnOneLine.not_mem_render`: the printed message
- `Message.IsRead.onOneLine`: the message of every line
-/

namespace LogViewer

open LogViewer.Text

/-! ## §1 Pieces without line feeds -/

namespace LogLine

theorem IsDate.not_mem {s : List CodePoint} (h : IsDate s) : ('\n' : CodePoint) ∉ s := by
  obtain ⟨a, b, c, d, rfl, hdigits⟩ := h
  have hnot := not_mem_of_forall_isDecimal (List.all_eq_true.1 hdigits)
  simp only [List.mem_cons, List.not_mem_nil, or_false, not_or] at hnot ⊢
  obtain ⟨ha, hb, hc, hd⟩ := hnot
  exact ⟨ha, hb, by decide, hc, hd⟩

theorem IsTime.not_mem {s : List CodePoint} (h : IsTime s) : ('\n' : CodePoint) ∉ s := by
  obtain ⟨a, b, c, d, e, f, fraction, rfl, hdigits, -, hfraction⟩ := h
  have hnot := not_mem_of_forall_isDecimal (List.all_eq_true.1 hdigits)
  have hrest := not_mem_of_forall_isDecimal hfraction
  simp only [List.mem_append, List.mem_cons, List.not_mem_nil, or_false, not_or] at hnot ⊢
  obtain ⟨ha, hb, hc, hd, he, hf⟩ := hnot
  exact ⟨⟨ha, hb, by decide, hc, hd, by decide, he, hf, by decide⟩, hrest⟩

theorem trim_subset (s : List CodePoint) : trim s ⊆ s := by
  intro c hc
  exact (List.dropWhile_sublist _).subset (trimRight_subset _ hc)

/-- None of the pieces that are printed as they are written has a line feed. -/
structure Unbroken (l : LogLine) : Prop where
  timestamp : ('\n' : CodePoint) ∉ l.timestamp
  tag : ('\n' : CodePoint) ∉ l.tag
  text : ('\n' : CodePoint) ∉ l.text

theorem unbroken_readTimed {s : List CodePoint} {l : LogLine} (h : readTimed s = some l) :
    l.Unbroken := by
  obtain ⟨head, level, gap, rest, before, text, -, -, -, -, hcut, htag, rfl⟩ := readTimed_eq_some_iff.1 h
  refine ⟨?_, htag, hcut.here.not_mem⟩
  -- Only a space stands between date and time, whatever stood there in the line.
  simp only [List.mem_append, List.mem_singleton, not_or]
  exact ⟨⟨head.date_isDate.not_mem, by decide⟩, head.time_isTime.not_mem⟩

theorem unbroken_readBrief {s : List CodePoint} {l : LogLine} (h : readBrief s = some l) :
    l.Unbroken := by
  obtain ⟨letter, level, rest, before, b, text, -, -, hcut, htag, rfl⟩ := readBrief_eq_some_iff.1 h
  refine ⟨List.not_mem_nil, fun hmem => htag (trim_subset before hmem), fun hmem => ?_⟩
  exact hcut.here.not_mem (List.mem_append_right _ hmem)

/-- No line, whatever line feeds it has, is read with one in a piece. -/
theorem unbroken_read {line : List CodePoint} {l : LogLine} (h : read line = some l) :
    l.Unbroken := by
  rcases Option.or_eq_some_iff.1 h with htimed | ⟨-, hbrief⟩
  · exact unbroken_readTimed htimed
  · exact unbroken_readBrief hbrief

end LogLine

/-! ## §2 Numbers that are written as they were read -/

namespace Text

theorem digitValue?_lt {code n : Nat} (h : digitValue? code = some n) : n < 10 := by
  obtain ⟨first, hfound, rfl⟩ := Option.map_eq_some_iff.1 h
  have hin := List.find?_some hfound
  simp only [Bool.and_eq_true, decide_eq_true_eq] at hin
  omega

/-- A row of digits has a value below the power of ten with as many zeros. -/
theorem digitsValue_lt (digits : List CodePoint) : digitsValue digits < 10 ^ digits.length := by
  induction digits using List.reverseRecOn with
  | nil => decide
  | append_singleton digits c ih =>
    have hdigit : (digitValue? c.toNat).getD 0 < 10 := by
      cases hvalue : digitValue? c.toNat with
      | none => decide
      | some n => exact digitValue?_lt hvalue
    have hvalue : digitsValue (digits ++ [c])
        = digitsValue digits * 10 + (digitValue? c.toNat).getD 0 := by
      unfold digitsValue
      rw [List.foldl_append, List.foldl_cons, List.foldl_nil]
    rw [hvalue, List.length_append, List.length_singleton, Nat.pow_succ]
    omega

/-- A number is written with no more digits than it was read from. -/
theorem length_decimal_digitsValue {digits : List CodePoint} (h : digits ≠ []) :
    (decimal (digitsValue digits)).length ≤ digits.length := by
  rw [decimal, List.length_map]
  exact Nat.toDigits_length 10 _ _ (List.length_pos_of_ne_nil h) (digitsValue_lt digits)

/-- A number that could be read can be written. -/
theorem writeNat_of_readNat {digits : List CodePoint} {n : Nat} (hne : digits ≠ [])
    (h : readNat digits = .ok n) : writeNat n = .ok (Text.toList (toString n)) := by
  obtain rfl := Processes.readNat_eq_ok h
  have hlimit : digits.length ≤ digitLimit := by
    unfold readNat at h
    split at h
    · assumption
    · cases h
  have hshort := (length_decimal_digitsValue hne).trans hlimit
  unfold writeNat
  rw [toList_toString]
  exact if_pos hshort

end Text

/-! ## §3 Messages -/

namespace Message

/-- The pieces of a message have no line feed, and its process number can be written. -/
structure OnOneLine (m : Message) : Prop where
  timestamp : ('\n' : CodePoint) ∉ m.timestamp.toList
  tag : ('\n' : CodePoint) ∉ m.tag.toList
  text : ('\n' : CodePoint) ∉ m.text.toList
  pid : ∃ n : Nat, m.pid = n ∧ writeNat n = .ok (Text.toList (toString n))

/-- A line gives a message, whatever names are known before it. -/
def IsRead (m : Message) : Prop :=
  ∃ names line names', Processes.readLine names line = .ok (some m, names')

theorem isRead_of_readLines {p q : Processes} {lines : List Text} {ms : List Message}
    (h : readLines p lines = .ok (ms, q)) : ∀ m ∈ ms, m.IsRead := by
  intro m hm
  obtain ⟨front, back, rfl⟩ := List.append_of_mem hm
  obtain ⟨_, line, _, names, names', _, _, hline, _⟩ := exists_line_of_readLines h
  exact ⟨names, line, names', hline⟩

/-- The message of a line is on one line. -/
theorem IsRead.onOneLine {m : Message} (h : m.IsRead) : m.OnOneLine := by
  obtain ⟨names, line, names', hline⟩ := h
  obtain ⟨-, ⟨⟩, -⟩ | ⟨l, m', hread, hm, hmessage⟩ := Processes.readLine_cases hline
  cases hm
  have hunbroken := LogLine.unbroken_read hread
  have hne := (LogLine.read_pieces hread).1.1.1
  unfold Processes.message at hmessage
  obtain ⟨tid, -, hmessage⟩ := bind_eq_ok_iff.1 hmessage
  obtain ⟨pid, hpid, hmessage⟩ := bind_eq_ok_iff.1 hmessage
  obtain ⟨known, -, hmessage⟩ := bind_eq_ok_iff.1 hmessage
  cases hmessage
  refine ⟨?_, ?_, ?_, pid, rfl, writeNat_of_readNat hne hpid⟩
  · simpa using hunbroken.timestamp
  · simpa using hunbroken.tag
  · simpa using hunbroken.text

namespace OnOneLine

variable {m : Message}

/-- The process number can be written. -/
theorem writeInt_pid (h : m.OnOneLine) : writeInt m.pid = .ok m.pidText.toList := by
  obtain ⟨n, hn, hwrite⟩ := h.pid
  unfold pidText
  rw [hn]
  exact hwrite

theorem not_mem_pidText (h : m.OnOneLine) : ('\n' : CodePoint) ∉ m.pidText.toList := by
  obtain ⟨n, hn, -⟩ := h.pid
  have htext : m.pidText = toString n := by
    unfold pidText
    rw [hn]
    rfl
  rw [htext, toList_toString]
  exact LogLine.not_mem_of_forall_isDecimal (isNumber_decimal n).2

/-- A message on one line is printed without a line feed. -/
theorem not_mem_render (h : m.OnOneLine) : ('\n' : CodePoint) ∉ m.render.toList := by
  have hletter : ('\n' : CodePoint) ∉ m.level.letterText.toList := by
    cases m.level <;> decide
  simp only [render, Text.toList_append, List.mem_append, not_or]
  -- Between the pieces there are signs and spaces.
  exact ⟨⟨⟨⟨⟨⟨⟨⟨h.timestamp, by decide⟩, hletter⟩, by decide⟩, h.tag⟩, by decide⟩, h.not_mem_pidText⟩,
    by decide⟩, h.text⟩

end OnOneLine

end Message

end LogViewer
