import LogViewer.Feed
import LogViewer.Proofs.Outcomes

/-!
# Reading many lines

Lines are read one after the other, and the names that are known go from each line to the next. A
feed hands on the messages that reading its lines gives, whatever the size of its batches.

## Main statements

- `readLines_cons_iff`, `readLines_append_iff`: what reading the parts of some lines gives
- `readLines_eq_error_iff`: the line at which reading fails
- `exists_line_of_readLines`: the line of a message
- `flatten_deliver`: a feed that reaches its end hands on all messages
-/

namespace LogViewer

open LogViewer.Text

/-- The first line is read before the others. -/
theorem readLines_cons_iff {p q : Processes} {line : Text} {lines : List Text}
    {ms : List Message} :
    readLines p (line :: lines) = .ok (ms, q) ↔
      ∃ m p' more, p.readLine line = .ok (m, p') ∧ readLines p' lines = .ok (more, q) ∧
        ms = m.toList ++ more := by
  rw [readLines, bind_eq_ok_iff]
  constructor
  · rintro ⟨⟨m, p'⟩, hline, hrest⟩
    obtain ⟨⟨more, q'⟩, hmore, hresult⟩ := bind_eq_ok_iff.1 hrest
    cases hresult
    exact ⟨m, p', more, hline, hmore, rfl⟩
  · rintro ⟨m, p', more, hline, hmore, rfl⟩
    exact ⟨(m, p'), hline, bind_eq_ok_iff.2 ⟨(more, q), hmore, rfl⟩⟩

/-- Lines are read in two parts. -/
theorem readLines_append_iff {p q : Processes} {lines more : List Text} {ms : List Message} :
    readLines p (lines ++ more) = .ok (ms, q) ↔
      ∃ first p' second, readLines p lines = .ok (first, p') ∧ readLines p' more = .ok (second, q) ∧
        ms = first ++ second := by
  induction lines generalizing p ms with
  | nil =>
    constructor
    · intro h
      exact ⟨[], p, ms, rfl, h, rfl⟩
    · rintro ⟨_, _, second, ⟨⟩, hsecond, rfl⟩
      exact hsecond
  | cons line lines ih =>
    rw [List.cons_append, readLines_cons_iff]
    constructor
    · rintro ⟨m, p', rest, hline, hrest, rfl⟩
      obtain ⟨first, p'', second, hfirst, hsecond, rfl⟩ := ih.1 hrest
      exact ⟨m.toList ++ first, p'', second,
        readLines_cons_iff.2 ⟨m, p', first, hline, hfirst, rfl⟩, hsecond, by simp⟩
    · rintro ⟨first, p'', second, hfirst, hsecond, rfl⟩
      obtain ⟨m, p', rest, hline, hrest, rfl⟩ := readLines_cons_iff.1 hfirst
      exact ⟨m, p', rest ++ second, hline, ih.2 ⟨rest, p'', second, hrest, hsecond, rfl⟩, by simp⟩

/-- Reading lines fails with the fault of the first line that fails, and the lines before it have
been read. -/
theorem readLines_eq_error_iff {p : Processes} {lines : List Text} {e : TooManyDigits} :
    readLines p lines = .error e ↔ ∃ before line after ms q, lines = before ++ line :: after ∧
      readLines p before = .ok (ms, q) ∧ q.readLine line = .error e := by
  constructor
  · intro h
    induction lines generalizing p with
    | nil => cases h
    | cons line lines ih =>
      rw [readLines] at h
      rcases bind_eq_error_iff.1 h with hline | ⟨⟨m, p'⟩, hline, hrest⟩
      · exact ⟨[], line, lines, [], p, rfl, rfl, hline⟩
      · rcases bind_eq_error_iff.1 hrest with hmore | ⟨_, _, hdone⟩
        · -- The line is read, so it is one of those before the one that fails.
          obtain ⟨before, line', after, ms, q, rfl, hbefore, hfails⟩ := ih hmore
          exact ⟨line :: before, line', after, m.toList ++ ms, q, rfl,
            readLines_cons_iff.2 ⟨m, p', ms, hline, hbefore, rfl⟩, hfails⟩
        · cases hdone
  · rintro ⟨before, line, after, ms, q, rfl, hbefore, hfails⟩
    induction before generalizing p ms with
    | nil =>
      cases hbefore
      rw [List.nil_append, readLines, hfails]
      rfl
    | cons first before ih =>
      obtain ⟨m, p', more, hfirst, hmore, _⟩ := readLines_cons_iff.1 hbefore
      rw [List.cons_append, readLines, hfirst]
      exact bind_eq_error_iff.2 (.inr ⟨(m, p'), rfl, bind_eq_error_iff.2 (.inl (ih more hmore))⟩)

/-- Every message has a line, and the messages before and after it are those of the lines before and
after that line. -/
theorem exists_line_of_readLines {p q : Processes} {lines : List Text}
    {front back : List Message} {m : Message}
    (h : readLines p lines = .ok (front ++ m :: back, q)) :
    ∃ before line after p₁ p₂, lines = before ++ line :: after ∧
      readLines p before = .ok (front, p₁) ∧ p₁.readLine line = .ok (some m, p₂) ∧
      readLines p₂ after = .ok (back, q) := by
  -- Lines before the one in question are passed one by one, and most of them give a message each.
  induction lines generalizing p front with
  | nil =>
    rw [readLines] at h
    simp at h
  | cons line lines ih =>
    obtain ⟨m', p', more, hline, hmore, hsplit⟩ := readLines_cons_iff.1 h
    have hlater : ∀ front', more = front' ++ m :: back → front = m'.toList ++ front' →
        ∃ before line' after p₁ p₂, line :: lines = before ++ line' :: after ∧
          readLines p before = .ok (front, p₁) ∧ p₁.readLine line' = .ok (some m, p₂) ∧
          readLines p₂ after = .ok (back, q) := by
      rintro front' rfl rfl
      obtain ⟨before, line', after, p₁, p₂, rfl, hbefore, hline', hafter⟩ := ih hmore
      exact ⟨line :: before, line', after, p₁, p₂, rfl,
        readLines_cons_iff.2 ⟨m', p', front', hline, hbefore, rfl⟩, hline', hafter⟩
    cases m' with
    | none => exact hlater front hsplit.symm rfl
    | some m' =>
      cases front with
      | nil =>
        -- The line is the first one.
        obtain ⟨rfl, rfl⟩ := List.cons.inj hsplit
        exact ⟨[], line, lines, p, p', rfl, rfl, hline, hmore⟩
      | cons m'' front =>
        obtain ⟨rfl, hrest⟩ := List.cons.inj hsplit
        exact hlater front hrest.symm rfl

/-- A feed whose lines can all be read hands on their messages behind those of the batch that is
being filled. -/
theorem flatten_deliver (size : Nat) {p q : Processes} {lines : List Text} {ms : List Message}
    (h : readLines p lines = .ok (ms, q)) (batch : List Message) :
    (deliver size p batch lines).batches.flatten = batch ++ ms := by
  induction lines generalizing p ms batch with
  | nil =>
    cases h
    cases batch <;> simp [deliver]
  | cons line lines ih =>
    obtain ⟨m, p', more, hline, hmore, rfl⟩ := readLines_cons_iff.1 h
    rw [deliver, hline]
    cases m with
    | none => exact ih hmore batch
    | some m =>
      dsimp only
      split
      · rw [List.flatten_cons, ih hmore []]
        simp
      · rw [ih hmore (batch ++ [m])]
        simp

end LogViewer
