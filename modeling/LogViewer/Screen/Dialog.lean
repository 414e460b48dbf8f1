import LogViewer.Rule

/-!
# The rule dialog

A rule is made or changed in a dialog with six texts. Saving reads the texts as a rule; a text that
cannot be read leaves the dialog open with a complaint.

## Main definitions

- `Dialog`: the texts, what the dialog is for, and the complaint that is shown
- `Dialog.rule`: the rule of the texts
- `Dialog.Refusal`: why they are none
-/

namespace LogViewer

/-- The texts of a dialog. -/
structure DialogFields where
  name : Text
  tag : Text
  text : Text
  pid : Text
  app : Text
  level : Text
deriving DecidableEq, Repr

/-- What a dialog is for. -/
inductive DialogGoal where
  | add
  | edit (position : Nat)
deriving DecidableEq, Repr

/-- A dialog that is open. -/
structure Dialog where
  goal : DialogGoal
  fields : DialogFields
  /-- The complaint that is shown, if any. -/
  complaint : Text
deriving DecidableEq, Repr

namespace Dialog

/-- The title of a dialog. -/
def title (d : Dialog) : Text :=
  match d.goal with
  | .add => "New Filter"
  | .edit _ => "Edit Filter"

/-- A dialog for a new rule. -/
def forNew : Dialog :=
  ⟨.add, ⟨"", "", "", "", "", Level.verbose.letterText⟩, ""⟩

/-- A dialog for the rule of a position. -/
def forRule (position : Nat) (r : Rule) : Dialog :=
  let c := r.criteria
  ⟨.edit position, ⟨c.name, c.tag, c.text, c.pid, c.app, c.level.letterText⟩, ""⟩

/-- Why the texts are no rule. -/
inductive Refusal where
  | blankName
  | level (e : UnknownLevel)
  | rule (e : RuleError)
deriving DecidableEq, Repr

/-- The complaint that is shown. -/
def Refusal.message : Refusal → Text
  | blankName => " a filter needs a name"
  | level e => " ⚠ " ++ e.message
  | rule e => " ⚠ " ++ e.message

/-- The level of a text, where nothing is the lowest. -/
def readLevel (text : Text) : Except UnknownLevel Level :=
  if text.isEmpty then .ok .verbose else Level.parse text

/-- The rule of the texts. Blanks around the name do not count. -/
def rule (d : Dialog) : Except Refusal Rule := do
  let name := Text.trimmed d.fields.name
  if name.isEmpty then throw .blankName
  let level ← (readLevel d.fields.level).mapError .level
  let f := d.fields
  (Rule.build ⟨name, f.tag, f.text, f.pid, f.app, level⟩ false).mapError .rule

end Dialog

end LogViewer
