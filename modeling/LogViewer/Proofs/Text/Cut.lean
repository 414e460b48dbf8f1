import LogViewer.Text.Lines

/-!
# The pieces of a text

A text without carriage returns is cut into lines at its boundary characters, nothing more. Of the
pieces the first one is what stands before the first boundary, and every later one begins right
after a boundary.

## Main statements

- `linesFrom_eq_splitOnP`: lines are the pieces between boundaries
- `newlinesUnified_of_not_mem`: a text that universal newlines leave as it is
- `splitOnP_eq_takeWhile_cons`, `exists_suffix_of_mem_tail`: where the pieces come from
- `splitOnP_intercalate`: the pieces of joined texts
-/

namespace LogViewer.Text

/-! ## §1 Lines -/

/-- A text that has no carriage return and does not end in a boundary is cut at its boundaries. -/
theorem linesFrom_eq_splitOnP (s : List CodePoint) {last : CodePoint}
    (hlast : isLineBreak last = false)
    (hcr : ('\r' : CodePoint) ∉ s ++ [last]) (line : List CodePoint) :
    linesFrom (s ++ [last]) line = (s ++ [last]).splitOnPPrepend isLineBreak line := by
  -- The line read so far grows with every character, so the induction is on all such lines.
  induction s generalizing line with
  | nil => simp [linesFrom, List.splitOnPPrepend, hlast]
  | cons c s ih =>
    have hne : c ≠ '\r' := by
      rintro rfl
      simp at hcr
    have hrest : ('\r' : CodePoint) ∉ s ++ [last] := by
      intro h
      exact hcr (List.mem_cons_of_mem c h)
    rw [List.cons_append, linesFrom]
    · by_cases hc : isLineBreak c = true
      · rw [if_pos hc, List.splitOnPPrepend_cons_pos hc, ih hrest, List.splitOnP]
      · rw [if_neg hc, List.splitOnPPrepend_cons_neg (by simpa using hc), ih hrest]
    · -- The case of two characters begins with a carriage return.
      intro rest hcr' _
      exact hne hcr'

/-- A text that has no carriage return has nothing to unify. -/
theorem newlinesUnified_of_not_mem {s : List CodePoint} (hcr : ('\r' : CodePoint) ∉ s) :
    newlinesUnified s = s := by
  induction s using newlinesUnified.induct with
  | case1 => rfl
  | case2 rest ih => simp at hcr
  | case3 rest _ ih => simp at hcr
  | case4 c rest hpair hsingle ih =>
    rw [newlinesUnified, ih fun h => hcr (List.mem_cons_of_mem c h)]
    · exact hpair
    · exact hsingle

/-! ## §2 Where pieces come from -/

variable {α : Type} {p : α → Bool}

/-- The first piece is what stands before the first boundary. -/
theorem splitOnP_eq_takeWhile_cons (s : List α) :
    s.splitOnP p = s.takeWhile (fun c => !p c) :: (s.splitOnP p).tail := by
  induction s with
  | nil => simp
  | cons c s ih =>
    rw [List.splitOnP_cons_eq_if_modifyHead]
    by_cases hc : p c = true
    · -- Before a boundary at the front there is the empty piece.
      simp [hc]
    · rw [if_neg hc, ih]
      simp [hc]

/-- A later piece begins right after a boundary and goes on to the next one. -/
theorem exists_suffix_of_mem_tail {s piece : List α} (h : piece ∈ (s.splitOnP p).tail) :
    ∃ sep rest, p sep = true ∧ sep :: rest <:+ s ∧ piece = rest.takeWhile fun c => !p c := by
  induction s with
  | nil => simp at h
  | cons c s ih =>
    rw [List.splitOnP_cons_eq_if_modifyHead] at h
    by_cases hc : p c = true
    · -- The first piece behind this boundary is a later piece of the whole.
      rw [if_pos hc, List.tail_cons, splitOnP_eq_takeWhile_cons] at h
      rcases List.mem_cons.1 h with rfl | h
      · exact ⟨c, s, hc, List.suffix_refl _, rfl⟩
      · obtain ⟨sep, rest, hsep, hsuffix, hpiece⟩ := ih h
        exact ⟨sep, rest, hsep, List.suffix_cons_iff.2 (.inr hsuffix), hpiece⟩
    · rw [if_neg hc, splitOnP_eq_takeWhile_cons] at h
      obtain ⟨sep, rest, hsep, hsuffix, hpiece⟩ := ih h
      exact ⟨sep, rest, hsep, List.suffix_cons_iff.2 (.inr hsuffix), hpiece⟩

/-- A boundary is not in a part that has none. -/
theorem suffix_of_suffix_append {a b rest : List α} {sep : α} (hsep : p sep = true)
    (ha : ∀ c ∈ a, p c = false) (h : sep :: rest <:+ a ++ b) : sep :: rest <:+ b := by
  induction a with
  | nil => exact h
  | cons c a ih =>
    rcases List.suffix_cons_iff.1 h with heq | h
    · have hc : sep = c := (List.cons.inj heq).1
      have := ha c (List.mem_cons_self ..)
      rw [← hc, hsep] at this
      cases this
    · exact ih (fun d hd => ha d (List.mem_cons_of_mem c hd)) h

/-! ## §3 Joined lines -/

/-- A character of joined texts is in one of them or is the one between them. -/
theorem eq_or_mem_of_mem_intercalate {sep c : α} {texts : List (List α)}
    (h : c ∈ [sep].intercalate texts) : c = sep ∨ ∃ text ∈ texts, c ∈ text := by
  induction texts with
  | nil => simp at h
  | cons text texts ih =>
    by_cases hnil : texts = []
    · subst hnil
      exact .inr ⟨text, List.mem_cons_self .., by simpa using h⟩
    · rw [List.intercalate_cons_of_ne_nil hnil, List.mem_append, List.mem_append] at h
      rcases h with (h | h) | h
      · exact .inr ⟨text, List.mem_cons_self .., h⟩
      · exact .inl (List.mem_singleton.1 h)
      · refine (ih h).imp_right ?_
        rintro ⟨text', hmem, hc⟩
        exact ⟨text', List.mem_cons_of_mem _ hmem, hc⟩

/-- The pieces of joined texts are the pieces of each text. -/
theorem splitOnP_intercalate {sep : α} (hsep : p sep = true) {texts : List (List α)}
    (hne : texts ≠ []) :
    ([sep].intercalate texts).splitOnP p = texts.flatMap fun text => text.splitOnP p := by
  induction texts with
  | nil => exact absurd rfl hne
  | cons text texts ih =>
    by_cases hnil : texts = []
    · subst hnil
      simp
    · -- The first text ends at the boundary between, and the pieces of the others begin there.
      rw [List.intercalate_cons_of_ne_nil hnil, List.append_assoc, List.singleton_append,
        List.splitOnP_append_cons text _ hsep, ih hnil, List.flatMap_cons]

/-- Joined texts end as the last one does. -/
theorem exists_concat_intercalate {sep last : α} {texts : List (List α)} (hne : texts ≠ [])
    (hlast : ∀ text ∈ texts, ∃ init, text = init ++ [last]) :
    ∃ init, [sep].intercalate texts = init ++ [last] := by
  induction texts with
  | nil => exact absurd rfl hne
  | cons text texts ih =>
    by_cases hnil : texts = []
    · subst hnil
      simpa using hlast text (List.mem_cons_self ..)
    · obtain ⟨init, hinit⟩ := ih hnil fun t ht => hlast t (List.mem_cons_of_mem _ ht)
      refine ⟨text ++ sep :: init, ?_⟩
      rw [List.intercalate_cons_of_ne_nil hnil, hinit]
      simp

end LogViewer.Text
