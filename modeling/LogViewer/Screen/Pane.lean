import LogViewer.RuleSet

/-!
# The pane of saved rules

Beside the log stands a pane with a row for each rule. The row is drawn for a position: pressing it
later selects whatever rule then has that position.

## Main definitions

- `ruleLabel`, `Rule.label`: the text of a row
- `PaneRow`, `pane`: the rows
-/

namespace LogViewer

/-- The label of a rule: a mark if it is selected, its name, a star for a rule of this session, and
the number of unread messages. -/
def ruleLabel (name : Text) (transient : Bool) (unread : Int) (selected : Bool) : Text :=
  let mark : Text := if selected then "▶" else " "
  let star : Text := if transient then " *" else ""
  let count : Text := if unread = 0 then "" else " (" ++ Text.groupedInt unread ++ ")"
  (mark ++ name ++ star ++ count)

/-- The label of a rule as it is now. -/
def Rule.label (r : Rule) (selected : Bool) : Text :=
  ruleLabel r.name r.transient r.unread selected

/-- A drawn row of the pane. -/
structure PaneRow where
  label : Text
  style : String
deriving DecidableEq, Repr

/-- The row of a rule. -/
def Rule.paneRow (r : Rule) (selected : Bool) : PaneRow :=
  ⟨r.label selected,
    if selected then "sp_sel" else if r.unread = 0 then "sp_body" else "sp_unread"⟩

/-- The rows of a rule set. -/
def pane (s : RuleSet) : List PaneRow :=
  s.rules.mapIdx fun i r => r.paneRow (i = s.selected)

end LogViewer
