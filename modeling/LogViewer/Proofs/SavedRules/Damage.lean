import LogViewer.Proofs.SavedRules.Skipping
import Mathlib.Data.List.Forall2

/-!
# Damage to saved rules

A line boundary beyond ASCII is written as it is, and cuts the line of its rule apart. The damage
stays with that rule: none of the pieces gives a rule, the pieces give warnings, and the rules whose
lines stay whole come back without any.

## Main definitions

- `SavedRule.HasSeparator`: a string of some criteria holds such a boundary
- `SavedRule.linesOf`: the lines that a reader finds in the line of some criteria
- `SavedRules.warningsOf`: the warnings that each rule of a saved text gives

## Main statements

- `SavedRule.isWhole_eq_false_iff`: a line is cut apart exactly if it holds such a boundary
- `SavedRules.warningsOf_spec`: exactly the rules with such a boundary give warnings
- `SavedRules.importRules_exportRules_damage`: what is lost of a saved rule set, and what is said of
  it -/

namespace LogViewer

/-! ## §1 Boundaries that are written as they are -/

/-- The raw boundaries are next line, line separator and paragraph separator. -/
theorem Json.isRawBreak_iff (c : CodePoint) :
    Json.isRawBreak c = true ↔ c = '\u0085' ∨ c = '\u2028' ∨ c = '\u2029' := by
  have hcode : ∀ d : CodePoint, c = d ↔ c.toNat = d.toNat := fun d => CodePoint.toNat_inj.symm
  simp only [Json.isRawBreak, Bool.or_eq_true, beq_iff_eq, hcode, or_assoc]
  rfl

namespace SavedRule

/-- A string of some criteria holds next line, line separator or paragraph separator. -/
def HasSeparator (c : Criteria) : Prop :=
  ∃ s ∈ [c.name, c.tag, c.text, c.pid, c.app],
    ∃ x ∈ s.toList, x = '\u0085' ∨ x = '\u2028' ∨ x = '\u2029'

instance (c : Criteria) : Decidable (HasSeparator c) :=
  inferInstanceAs (Decidable (∃ s ∈ [c.name, c.tag, c.text, c.pid, c.app],
    ∃ x ∈ s.toList, x = '\u0085' ∨ x = '\u2028' ∨ x = '\u2029'))

/-- The line of some criteria is cut apart exactly if one of their strings holds a separator. -/
theorem isWhole_eq_false_iff (c : Criteria) : isWhole c = false ↔ HasSeparator c := by
  unfold isWhole HasSeparator
  rw [List.all_eq_false]
  simp only [Bool.not_eq_true, Bool.not_eq_false', List.any_eq_true, Json.isRawBreak_iff]

/-- The lines that a reader finds in the line of some criteria. -/
def linesOf (c : Criteria) : List Text :=
  (pieces c).map Text.ofList

/-- Without a separator, the line of some criteria is one line. -/
theorem linesOf_of_not_hasSeparator {c : Criteria} (h : ¬ HasSeparator c) :
    linesOf c = [encode c] := by
  have hwhole : isWhole c = true := by
    rw [← Bool.not_eq_false]
    exact fun hbroken => h ((isWhole_eq_false_iff c).1 hbroken)
  rw [linesOf, pieces_of_isWhole hwhole]
  rfl

/-- With a separator, no line gives a rule, and none stops the reading. -/
theorem skipped_of_mem_linesOf {c : Criteria} (h : HasSeparator c) :
    ∀ line ∈ linesOf c, Skipped line := by
  intro line hline
  obtain ⟨piece, hpiece, rfl⟩ := List.mem_map.1 hline
  exact skipped_of_mem_pieces ((isWhole_eq_false_iff c).2 h) piece hpiece

/-- The first line begins with the brace of the object, so it is not blank. -/
theorem linesOf_eq_cons (c : Criteria) :
    ∃ first rest, linesOf c = first :: rest ∧ SavedRules.isBlankLine first = false := by
  unfold linesOf pieces
  rw [Text.splitOnP_eq_takeWhile_cons, List.map_cons]
  refine ⟨_, _, rfl, ?_⟩
  unfold SavedRules.isBlankLine
  rw [Text.toList_ofList, encodeChars_eq, Json.writeObject]
  rfl

end SavedRule

namespace SavedRules

open SavedRule (HasSeparator linesOf)

/-! ## §2 The warnings of each rule -/

/-- The warnings of some lines, the first of which has the given number. -/
def warningsFrom (number : Nat) (lines : List Text) : List Text :=
  (lines.zipIdx number).filterMap fun line => warning? line.1 line.2

/-- The warnings that the lines of each rule give, where the first line of all has the given number.
-/
def warningsOf : Nat → List Rule → List (List Text)
  | _, [] => []
  | number, r :: rules =>
    warningsFrom number (linesOf r.criteria) ::
      warningsOf (number + (linesOf r.criteria).length) rules

theorem warningsFrom_append (number : Nat) (lines more : List Text) :
    warningsFrom number (lines ++ more)
      = warningsFrom number lines ++ warningsFrom (number + lines.length) more := by
  unfold warningsFrom
  rw [List.zipIdx_append, List.filterMap_append]

/-- Together, the rules give the warnings of all their lines. -/
theorem flatten_warningsOf (number : Nat) (rules : List Rule) :
    (warningsOf number rules).flatten
      = warningsFrom number (rules.flatMap fun r => linesOf r.criteria) := by
  induction rules generalizing number with
  | nil => rfl
  | cons r rules ih =>
    rw [warningsOf, List.flatten_cons, ih, List.flatMap_cons, warningsFrom_append]

/-- A rule gives a warning exactly if one of its strings holds a separator. -/
theorem warningsFrom_linesOf (number : Nat) (r : Rule) :
    warningsFrom number (linesOf r.criteria) ≠ [] ↔ HasSeparator r.criteria := by
  constructor
  · intro hwarned
    by_contra hwhole
    apply hwarned
    have hread : warning? (SavedRule.encode r.criteria) number = none :=
      warning?_eq_none_iff.2 (.inr ⟨_, SavedRule.decode_encode r⟩)
    rw [SavedRule.linesOf_of_not_hasSeparator hwhole]
    simp [warningsFrom, hread]
  · intro hbroken hnone
    obtain ⟨first, rest, hlines, hblank⟩ := SavedRule.linesOf_eq_cons r.criteria
    have hskipped := SavedRule.skipped_of_mem_linesOf hbroken first (by simp [hlines])
    -- So the first line gives a warning.
    have hfirst : warning? first number = none := by
      rw [hlines, warningsFrom, List.zipIdx_cons, List.filterMap_eq_nil_iff] at hnone
      exact hnone _ (List.mem_cons_self ..)
    obtain ⟨e, he, _⟩ := hskipped
    rcases warning?_eq_none_iff.1 hfirst with hline | ⟨r', hr'⟩
    · rw [hblank] at hline
      cases hline
    · rw [he] at hr'
      cases hr'

/-- Exactly the rules with a separator in one of their strings give warnings. -/
theorem warningsOf_spec (number : Nat) (rules : List Rule) :
    List.Forall₂ (fun r warnings => warnings ≠ [] ↔ HasSeparator r.criteria) rules
      (warningsOf number rules) := by
  induction rules generalizing number with
  | nil => exact .nil
  | cons r rules ih => exact .cons (warningsFrom_linesOf number r) (ih _)

/-! ## §3 What is lost -/

/-- The lines of a saved text are those of its rules. -/
theorem lines_exportRules (s : RuleSet) :
    Text.lines (exportRules s) = s.persistent.flatMap fun r => linesOf r.criteria :=
  lines_encodeAll s.persistent

/-- Reading a saved text gives the warnings of its lines. -/
theorem warnings_importRules_exportRules (s : RuleSet) :
    (importRules (exportRules s)).warnings = (warningsOf 1 s.persistent).flatten := by
  have hread : (decodeAll (exportRules s)).result = _ := decodeAll_encodeAll s.persistent
  rw [flatten_warningsOf, ← lines_exportRules]
  exact (decodeAllWithin_ok hread).2

/-- What a saved rule set loses when it is read back. The rules that come back are those without a
separator in their strings, in their order and with the same criteria. Of a line that is cut apart,
no piece gives a rule; a line that is not is read whole. The warnings are those that the rules give
one after the other, and a rule gives some exactly if it does not come back. -/
theorem importRules_exportRules_damage (s : RuleSet) :
    (∃ again, (importRules (exportRules s)).result = .ok again ∧
      again.persistent.map (·.criteria)
        = (s.persistent.filter fun r => ¬ HasSeparator r.criteria).map (·.criteria)) ∧
    Text.lines (exportRules s) = (s.persistent.flatMap fun r => linesOf r.criteria) ∧
    (∀ c, HasSeparator c → ∀ line ∈ linesOf c, ∀ r, SavedRule.decode line ≠ .ok r) ∧
    (∀ c, ¬ HasSeparator c → linesOf c = [SavedRule.encode c]) ∧
    (importRules (exportRules s)).warnings = (warningsOf 1 s.persistent).flatten ∧
    List.Forall₂ (fun r warnings => warnings ≠ [] ↔ HasSeparator r.criteria) s.persistent
      (warningsOf 1 s.persistent) := by
  refine ⟨⟨_, importRules_exportRules s, ?_⟩, lines_exportRules s, ?_,
    fun _ => SavedRule.linesOf_of_not_hasSeparator, warnings_importRules_exportRules s,
    warningsOf_spec 1 s.persistent⟩
  · have hkept : (fun r : Rule => SavedRule.isWhole r.criteria)
        = fun r => decide (¬ HasSeparator r.criteria) := by
      funext r
      rw [Bool.eq_iff_iff, decide_eq_true_iff, ← SavedRule.isWhole_eq_false_iff, Bool.not_eq_false]
    rw [persistent_ofRules_reloaded, List.map_map, hkept]
    rfl
  · intro c h line hline r hr
    obtain ⟨e, he, _⟩ := SavedRule.skipped_of_mem_linesOf h line hline
    rw [he] at hr
    cases hr

end SavedRules

end LogViewer
