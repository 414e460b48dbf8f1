import LogViewer.RuleSet
import LogViewer.SavedRule
import LogViewer.Text.Lines

/-!
# Texts of saved rules

The saved text of a rule set has a line for each rule that is saved. Reading goes line by line: a
line that is no rule is skipped with a warning that names its number. Only two things end the
reading: a repetition number that is too large to be counted, and a line that is nested so deeply
that the stack of the interpreter runs out. How deep that is depends on the interpreter and on what
is on the stack already, so it is a parameter; unless it is said otherwise, the stack has no end.

## Main definitions

- `exportRules`: the saved text of a rule set
- `Stack`: where the stack of the interpreter runs out
- `Loading`, `decodeLines`: the rules of a text, with the warnings on the way
- `importRules`: the rule set of a text
-/

namespace LogViewer

/-- Where the stack of the interpreter runs out: at which texts when they are read as values, and at
which patterns when they are compiled. -/
structure Stack where
  value : Text → Bool
  pattern : Text → Bool

namespace Stack

/-- A stack that never runs out. -/
def endless : Stack := ⟨fun _ => false, fun _ => false⟩

/-- Whether the stack runs out when patterns are compiled one after the other, up to one that does
not compile. Empty ones are not compiled. -/
def runsOutCompiling (k : Stack) : List Text → Bool
  | [] => false
  | p :: rest =>
    if p.isEmpty then k.runsOutCompiling rest
    else k.pattern p || ((Pattern.compile p).toOption.isSome && k.runsOutCompiling rest)

/-- Whether the stack runs out when a line is read as a rule. -/
def runsOut (k : Stack) (line : Text) : Bool :=
  k.value line || (SavedRule.criteria? line).any fun c => k.runsOutCompiling [c.tag, c.text, c.app]

theorem runsOutCompiling_endless (patterns : List Text) :
    endless.runsOutCompiling patterns = false := by
  induction patterns with
  | nil => rfl
  | cons p rest ih =>
    have hp : endless.pattern p = false := rfl
    simp [runsOutCompiling, ih, hp]

@[simp] theorem runsOut_endless (line : Text) : endless.runsOut line = false := by
  simp only [runsOut, runsOutCompiling_endless]
  cases SavedRule.criteria? line <;> rfl

end Stack

/-- What the program tells the user on the error stream. -/
def warningLine (text : Text) : Text := "[logcatpanel warn] " ++ text

namespace SavedRules

/-- The saved text of some rules. -/
def encodeAll (rules : List Rule) : Text :=
  Text.intercalate "\n" (rules.map fun r => SavedRule.encode r.criteria)

/-- The saved text of a rule set. -/
def exportRules (s : RuleSet) : Text :=
  encodeAll s.persistent

/-- Why the reading of a text ends before its end. -/
inductive Ending where
  | rule (e : RuleError)
  | stack
deriving DecidableEq, Repr

/-- The text of the complaint. -/
def Ending.message : Ending → Text
  | rule e => e.message
  | stack => "maximum recursion depth exceeded"

/-- Rules read from a text, with the warnings on the way. -/
structure Loading (α : Type) where
  warnings : List Text
  result : Except Ending α

/-- The fault that ends the reading instead of being skipped. -/
def endsReading? : SavedRule.DecodeError → Option RuleError
  | .rule e => if e.isUncounted then some e else none
  | _ => none

/-- The warning for a line that is skipped. -/
def skipWarning (number : Nat) (e : SavedRule.DecodeError) : Text :=
  match e with
  | .rule rule =>
    if rule.reason?.isSome then
      "saved filter on line " ++ toString number ++ " skipped: " ++ e.message
    else "saved filter on line " ++ toString number ++ " is corrupt, skipped: " ++ e.message
  | _ => "saved filter on line " ++ toString number ++ " is corrupt, skipped: " ++ e.message

/-- Whether a line is all white space. -/
def isBlankLine (line : Text) : Bool :=
  line.toList.all Text.isBlank

/-- Reads lines, the first of which has the given number. -/
def decodeLines (k : Stack) : Nat → List Text → Loading (List Rule)
  | _, [] => ⟨[], .ok []⟩
  | number, line :: rest =>
    if isBlankLine line then decodeLines k (number + 1) rest
    else if k.runsOut line then ⟨[], .error .stack⟩
    else
      match SavedRule.decode line with
      | .ok rule =>
        let more := decodeLines k (number + 1) rest
        ⟨more.warnings, more.result.map (rule :: ·)⟩
      | .error e =>
        match endsReading? e with
        | some fault => ⟨[], .error (.rule fault)⟩
        | none =>
          let more := decodeLines k (number + 1) rest
          ⟨skipWarning number e :: more.warnings, more.result⟩

/-- The rules of a text, as far as the stack goes. -/
def decodeAllWithin (k : Stack) (text : Text) : Loading (List Rule) :=
  decodeLines k 1 (Text.lines text)

/-- The rules of a text. -/
def decodeAll (text : Text) : Loading (List Rule) :=
  decodeAllWithin .endless text

/-- The rule set of a text. -/
def importRules (text : Text) : Loading RuleSet :=
  let loaded := decodeAll text
  ⟨loaded.warnings, loaded.result.map RuleSet.ofRules⟩

end SavedRules

end LogViewer
