import LogViewer.Proofs.Outcomes
import LogViewer.Proofs.Rules.Changes
import LogViewer.Screen.Dialog

/-!
# The rule of a dialog

The six texts of a dialog are read as a rule: the name without the blanks around it, the level by
its letter or name, and the other four as they are typed. Reading stops at the first text that is
refused. The texts of a dialog that is opened for a rule are those of the rule, so they are read as
a rule that asks the same.

## Main definitions

- `Dialog.criteria`: what the texts of a dialog ask

## Main statements

- `Dialog.rule_eq_ok_iff`, `Dialog.rule_eq_error_iff`: when the texts are a rule, and what they lack
- `Dialog.rule_forRule`: the texts of a rule
-/

namespace LogViewer

namespace Dialog

/-! ## §1 Reading the texts -/

/-- What the texts of a dialog ask, at a level. -/
def criteria (d : Dialog) (level : Level) : Criteria :=
  ⟨Text.trimmed d.fields.name, d.fields.tag, d.fields.text, d.fields.pid, d.fields.app, level⟩

/-- The texts are read in order: the name, the level, and then the patterns. -/
theorem rule_eq (d : Dialog) : d.rule =
    if Text.trimmed d.fields.name = "" then .error .blankName
    else (readLevel d.fields.level).mapError .level >>= fun level =>
      (Rule.build (d.criteria level) false).mapError .rule := by
  unfold rule
  by_cases hname : Text.trimmed d.fields.name = ""
  · rw [if_pos hname, hname]
    rfl
  · have hempty : (Text.trimmed d.fields.name).isEmpty = false := Text.isEmpty_eq_false_iff.2 hname
    simp only [hempty, hname, if_false]
    rfl

/-- The texts are a rule if there is a name, the level is known and the patterns compile. -/
theorem rule_eq_ok_iff {d : Dialog} {r : Rule} : d.rule = .ok r ↔
    Text.trimmed d.fields.name ≠ "" ∧ ∃ level, readLevel d.fields.level = .ok level
      ∧ Rule.build (d.criteria level) false = .ok r := by
  rw [rule_eq]
  by_cases hname : Text.trimmed d.fields.name = ""
  · simp [hname]
  · rw [if_neg hname, bind_eq_ok_iff]
    simp only [mapError_eq_ok_iff]
    exact (and_iff_right hname).symm

/-- What the texts lack: a name, a known level, or a pattern that compiles. -/
theorem rule_eq_error_iff {d : Dialog} {refusal : Refusal} : d.rule = .error refusal ↔
    match refusal with
    | .blankName => Text.trimmed d.fields.name = ""
    | .level e => Text.trimmed d.fields.name ≠ "" ∧ readLevel d.fields.level = .error e
    | .rule e => Text.trimmed d.fields.name ≠ "" ∧ ∃ level, readLevel d.fields.level = .ok level
        ∧ Rule.build (d.criteria level) false = .error e := by
  rw [rule_eq]
  by_cases hname : Text.trimmed d.fields.name = ""
  · cases refusal <;> simp [hname]
  · rw [if_neg hname, bind_eq_error_iff]
    simp only [mapError_eq_ok_iff, mapError_eq_error_iff]
    cases refusal <;> simp [hname]

/-- The texts are all that the rule is made of. -/
theorem rule_congr {d d' : Dialog} (h : d'.fields = d.fields) : d'.rule = d.rule := by
  have hcriteria : d'.criteria = d.criteria := by
    funext level
    simp [criteria, h]
  rw [rule_eq, rule_eq, hcriteria, h]

/-- A dialog makes no rules of this session. -/
theorem transient_of_rule {d : Dialog} {r : Rule} (h : d.rule = .ok r) : r.transient = false := by
  obtain ⟨-, level, -, hbuild⟩ := rule_eq_ok_iff.1 h
  exact Rule.transient_of_build hbuild

/-! ## §2 Dialogs for a rule -/

/-- The letter of a level is read as that level. -/
theorem readLevel_letterText (l : Level) : readLevel l.letterText = .ok l := by
  cases l <;> rfl

/-- What is compiled does not depend on the name. -/
theorem compile_rename (c : Criteria) (name : Text) :
    ({ c with name } : Criteria).compile = c.compile :=
  rfl

/-- A dialog that is opened for a rule asks what the rule asks; only the blanks around the name go.
-/
theorem rule_forRule (position : Nat) {r : Rule} (hname : Text.trimmed r.name ≠ "") :
    (forRule position r).rule = .ok ⟨{ r.criteria with name := Text.trimmed r.name }, r.patterns, false,
      0, (compile_rename r.criteria _).trans r.compiled⟩ := by
  apply rule_eq_ok_iff.2
  refine ⟨hname, r.criteria.level, readLevel_letterText r.criteria.level, ?_⟩
  apply Rule.build_eq_ok_iff.2
  exact ⟨r.patterns, (compile_rename r.criteria _).trans r.compiled, rfl⟩

end Dialog

end LogViewer
