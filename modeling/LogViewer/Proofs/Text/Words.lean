import LogViewer.Proofs.Lists
import LogViewer.Text.Blank

/-!
# Words

A text is some words with white space before, between and behind them. How much white space there
is, and which, does not matter: the same words are read. So the words of two texts with white space
between them are those of the first followed by those of the second.

## Main definitions

- `Spaced`: a text has some words, with white space around them

## Main statements

- `words_eq_iff`: the words that are read are those that the text has
- `words_append`, `words_space`: the words of two texts with white space or a space between them
-/

namespace LogViewer.Text

/-! ## §1 Words and white space -/

/-- Characters that have some words, in this order, and otherwise white space. A word is as long as
it can be. -/
inductive SpacedChars : List (List CodePoint) → List CodePoint → Prop
  | nil : SpacedChars [] []
  | blank {ws : List (List CodePoint)} {c : CodePoint} {s : List CodePoint} :
      isBlank c = true → SpacedChars ws s → SpacedChars ws (c :: s)
  | word {w : List CodePoint} {ws : List (List CodePoint)} {s : List CodePoint} :
      w ≠ [] → (∀ c ∈ w, isBlank c = false) → (∀ c ∈ s.head?, isBlank c = true) →
      SpacedChars ws s → SpacedChars (w :: ws) (w ++ s)

/-- A text that has some words, in this order, with white space before, between and behind them. -/
def Spaced (ws : List Text) (s : Text) : Prop := SpacedChars (ws.map Text.toList) s.toList

/-- White space may be added in front. -/
theorem SpacedChars.blanks {ws : List (List CodePoint)} {s : List CodePoint} (h : SpacedChars ws s)
    {b : List CodePoint} (hb : ∀ c ∈ b, isBlank c = true) : SpacedChars ws (b ++ s) := by
  induction b with
  | nil => exact h
  | cons c b ih =>
    rw [List.forall_mem_cons] at hb
    exact .blank hb.1 (ih hb.2)

/-- One text behind another, if their words do not run together. -/
theorem SpacedChars.append {ws ws' : List (List CodePoint)} {s s' : List CodePoint}
    (h : SpacedChars ws s)
    (h' : SpacedChars ws' s') (hs' : ∀ c ∈ s'.head?, isBlank c = true) :
    SpacedChars (ws ++ ws') (s ++ s') := by
  induction h with
  | nil => exact h'
  | blank hc _ ih => exact .blank hc ih
  | @word w ws s hw hplain hends _ ih =>
    rw [List.cons_append, List.append_assoc]
    refine .word hw hplain ?_ ih
    -- What follows the word is what followed it before, or the text behind.
    cases s with
    | nil => exact hs'
    | cons c s => exact hends

/-! ## §2 Reading words -/

/-- A character belongs to the word that has been begun, or it ends it. -/
theorem wordsFrom_cons (c : CodePoint) (s word : List CodePoint) :
    wordsFrom (c :: s) word = if isBlank c then
        match word with
        | [] => wordsFrom s []
        | _ => word.reverse :: wordsFrom s []
      else wordsFrom s (c :: word) := rfl

/-- White space in front of a text is passed over. -/
theorem wordsFrom_blank {c : CodePoint} (h : isBlank c = true) (s : List CodePoint) :
    wordsFrom (c :: s) [] = wordsFrom s [] := by
  rw [wordsFrom_cons, if_pos h]

/-- The rest of a word that has been begun is read before the other words. -/
theorem wordsFrom_begun (s word : List CodePoint) (d : CodePoint) :
    wordsFrom s (d :: word) = ((d :: word).reverse ++ s.takeWhile fun c => !isBlank c)
      :: wordsFrom (s.dropWhile fun c => !isBlank c) [] := by
  induction s generalizing word d with
  | nil =>
    rw [List.takeWhile_nil, List.dropWhile_nil, List.append_nil]
    rfl
  | cons c s ih =>
    rw [wordsFrom_cons]
    cases hc : isBlank c with
    | true => simp [hc, wordsFrom_blank]
    | false => simp [hc, ih]

/-- The word at the beginning of a text is read first. -/
theorem wordsFrom_word {w s : List CodePoint} (hw : w ≠ []) (hplain : ∀ c ∈ w, isBlank c = false)
    (hends : ∀ c ∈ s.head?, isBlank c = true) : wordsFrom (w ++ s) [] = w :: wordsFrom s [] := by
  cases w with
  | nil => exact absurd rfl hw
  | cons c w =>
    rw [List.forall_mem_cons] at hplain
    have hspan : (w ++ s).takeWhile (fun c => !isBlank c) = w ∧
        (w ++ s).dropWhile (fun c => !isBlank c) = s :=
      span_eq_iff.2 ⟨rfl, by simpa using hplain.2, by simpa using hends⟩
    rw [List.cons_append, wordsFrom_cons, hplain.1, if_neg Bool.false_ne_true, wordsFrom_begun, hspan.1,
      hspan.2]
    rfl

/-- Every text has the words that are read from it. -/
theorem spacedChars_wordsFrom (s : List CodePoint) : SpacedChars (wordsFrom s []) s := by
  -- A word is taken off at once, so the rest of the text is shorter by more than one character.
  induction hn : s.length using Nat.strongRecOn generalizing s with
  | ind n ih =>
    cases s with
    | nil => exact .nil
    | cons c s =>
      cases hc : isBlank c with
      | true =>
        rw [wordsFrom_blank hc]
        exact .blank hc (ih s.length (by simp [← hn]) s rfl)
      | false =>
        let rest := s.dropWhile fun c => !isBlank c
        have hsplit : c :: s = (c :: s.takeWhile fun c => !isBlank c) ++ rest := by
          rw [List.cons_append, List.takeWhile_append_dropWhile]
        have hplain : ∀ d ∈ c :: s.takeWhile fun c => !isBlank c, isBlank d = false := by
          rw [List.forall_mem_cons]
          refine ⟨hc, fun d hd => ?_⟩
          simpa using List.mem_takeWhile_imp hd
        have hends : ∀ d ∈ rest.head?, isBlank d = true := by
          intro d hd
          have hstop := List.head?_dropWhile_not (fun c => !isBlank c) s
          rw [hd] at hstop
          simpa using hstop
        have hshorter : rest.length < n := by
          rw [← hn, List.length_cons]
          exact Nat.lt_succ_of_le (List.dropWhile_sublist _).length_le
        rw [hsplit, wordsFrom_word (List.cons_ne_nil c _) hplain hends]
        exact .word (List.cons_ne_nil c _) hplain hends (ih rest.length hshorter rest rfl)

/-- The words that are read from characters are those that the characters have. -/
theorem wordsFrom_eq_iff {s : List CodePoint} {ws : List (List CodePoint)} :
    wordsFrom s [] = ws ↔ SpacedChars ws s := by
  constructor
  · rintro rfl
    exact spacedChars_wordsFrom s
  · intro h
    induction h with
    | nil => rfl
    | blank hc _ ih => rw [wordsFrom_blank hc, ih]
    | word hw hplain hends _ ih => rw [wordsFrom_word hw hplain hends, ih]

/-- The words that are read from a text are those that it has, whatever white space is around them.
-/
theorem words_eq_iff {s : Text} {ws : List Text} : words s = ws ↔ Spaced ws s := by
  unfold Spaced
  rw [← wordsFrom_eq_iff]
  constructor
  · rintro rfl
    simp [words, Function.comp_def]
  · intro h
    simp [words, h, Function.comp_def]

/-- The words of two texts with white space between them are those of the one and then those of the
other. -/
theorem words_append (s s' : Text) {b : Text} (hb : ∀ c ∈ b.toList, isBlank c = true)
    (hne : b ≠ "") : words (s ++ b ++ s') = words s ++ words s' := by
  rw [words_eq_iff]
  have hs := words_eq_iff.1 (rfl : words s = words s)
  have hs' := words_eq_iff.1 (rfl : words s' = words s')
  unfold Spaced at hs hs' ⊢
  rw [List.map_append, Text.toList_append, Text.toList_append, List.append_assoc]
  refine hs.append (hs'.blanks hb) ?_
  intro c hc
  cases hchars : b.toList with
  | nil => exact absurd (Text.toList_eq_nil_iff.1 hchars) hne
  | cons d rest =>
    rw [hchars] at hb hc
    obtain rfl : d = c := Option.some.inj hc
    exact hb d (List.mem_cons_self ..)

/-- The words of two texts with a space between them. -/
theorem words_space (s s' : Text) : words (s ++ " " ++ s') = words s ++ words s' := by
  have hblank : ∀ c ∈ Text.toList " ", isBlank c = true := by
    intro c hc
    have hspace : c = ' ' := by simpa using hc
    rw [hspace]
    decide
  exact words_append s s' hblank (by decide)

end LogViewer.Text
