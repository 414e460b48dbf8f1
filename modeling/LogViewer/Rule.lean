import LogViewer.Message
import LogViewer.Pattern.Basic

/-!
# Filter rules

A rule is a test of messages: up to three patterns, a process number and a least level. Its patterns
are compiled when it is built, so a rule with a bad pattern does not exist. It also counts the
messages that it matched while it was not looked at.

## Main definitions

- `Criteria`: what a rule asks
- `Rule`: criteria with their compiled patterns and the count of unread matches
- `RuleError`: why there is no rule for some criteria
- `Rule.build`, `Rule.revise`: building a rule
- `Rule.matches`: what the test of a message says
- `Rule.test`, `Rule.passing`: the test, which breaks off at a process number that cannot be written
-/

namespace LogViewer

/-! ## §1 Criteria -/

/-- What a rule asks of a message; an empty text asks nothing. -/
structure Criteria where
  name : Text
  tag : Text
  text : Text
  pid : Text
  app : Text
  level : Level
deriving DecidableEq, Repr

/-- Criteria of a name that ask nothing. -/
def Criteria.named (name : Text) : Criteria :=
  ⟨name, "", "", "", "", .verbose⟩

/-- The field of a pattern. -/
inductive PatternField where
  | tag
  | text
  | app
deriving DecidableEq, Repr

/-- The name of a field in messages. -/
def PatternField.name : PatternField → Text
  | tag => "tag"
  | text => "text"
  | app => "app"

/-- The pattern of a field is refused. -/
structure RuleError where
  field : PatternField
  pattern : Text
  error : Pattern.Error
deriving DecidableEq, Repr

namespace RuleError

/-- What is wrong with the grammar of the pattern, if that is the fault. -/
def reason? (e : RuleError) : Option Text :=
  match e.error with
  | .grammar cause position => some (Pattern.reason e.pattern.toList cause position)
  | _ => none

/-- Whether the fault is a repetition number that is too large. It is the only fault that is not
reported where rules are typed in or read from a file: it ends what is going on. -/
def isUncounted (e : RuleError) : Bool := e.error = .repetitionTooLarge

/-- The text of the complaint. -/
def message (e : RuleError) : Text :=
  match e.error with
  | .grammar cause position =>
    "invalid " ++ e.field.name ++ " pattern " ++ Text.quoted e.pattern ++ ": " ++
      Pattern.reason e.pattern.toList cause position
  | .repetitionTooLarge => "the repetition number is too large"
  | .tooManyDigits e => e.message
  | .asciiAndUnicode => "ASCII and UNICODE flags are incompatible"

end RuleError

/-! ## §2 Compiled patterns -/

/-- The compiled patterns of some criteria; an empty pattern is none. -/
structure Patterns where
  tag : Option Pattern
  text : Option Pattern
  app : Option Pattern

/-- Compiles the pattern of a field. -/
def compileField (field : PatternField) (pattern : Text) :
    Except RuleError (Option Pattern) :=
  if pattern.isEmpty then .ok none
  else
    match Pattern.compile pattern with
    | .ok p => .ok (some p)
    | .error e => .error ⟨field, pattern, e⟩

/-- Compiles the patterns: the tag first, then the text, then the application. -/
def Criteria.compile (c : Criteria) : Except RuleError Patterns := do
  let tag ← compileField .tag c.tag
  let text ← compileField .text c.text
  let app ← compileField .app c.app
  return ⟨tag, text, app⟩

/-! ## §3 Rules -/

/-- A filter rule. -/
structure Rule where
  criteria : Criteria
  patterns : Patterns
  /-- A rule of this session only, which is never saved. -/
  transient : Bool
  /-- How many matching messages came while the rule was not looked at. -/
  unread : Nat
  compiled : criteria.compile = .ok patterns

namespace Rule

/-- Builds a rule, if its patterns compile. -/
def build (c : Criteria) (transient : Bool) : Except RuleError Rule :=
  match h : c.compile with
  | .ok patterns => .ok ⟨c, patterns, transient, 0, h⟩
  | .error e => .error e

/-- The name of a rule. -/
def name (r : Rule) : Text := r.criteria.name

/-- A copy with other criteria and nothing unread. -/
def revise (r : Rule) (change : Criteria → Criteria) (transient : Bool) : Except RuleError Rule :=
  build (change r.criteria) transient

/-- Whether an optional pattern occurs in a text; no pattern always does. -/
def occurs (p : Option Pattern) (text : Text) : Bool :=
  match p with
  | some p => p.occursIn text
  | none => true

/-- Whether a process number is the one asked for; white space around it does not count. -/
def pidMatches (pid : Text) (m : Message) : Bool :=
  let asked := Text.trimmed pid
  asked.isEmpty || asked == m.pidText

/-- Whether a message passes a rule. -/
def «matches» (r : Rule) (m : Message) : Bool :=
  r.criteria.level ≤ m.level && pidMatches r.criteria.pid m && occurs r.patterns.app m.app
    && occurs r.patterns.tag m.tag && occurs r.patterns.text m.text

/-- Tests a message step by step: the level, the process number, the patterns. The number is written
only if one is asked for, and the test breaks off if it has too many digits. -/
def test (r : Rule) (m : Message) : Except Text.TooManyDigits Bool := do
  if m.level < r.criteria.level then return false
  let asked := Text.trimmed r.criteria.pid
  if !asked.isEmpty then
    let written ← m.pidText?
    if asked != written then return false
  return occurs r.patterns.app m.app && occurs r.patterns.tag m.tag && occurs r.patterns.text m.text

/-- Tests a message by some rules, until one does not let it through. -/
def testAll (m : Message) : List Rule → Except Text.TooManyDigits Bool
  | [] => .ok true
  | r :: rules => do if ← r.test m then testAll m rules else return false

/-- The messages that some rules let through, found one by one. -/
def passing (rules : List Rule) : List Message → Except Text.TooManyDigits (List Message)
  | [] => .ok []
  | m :: ms => do
    let passes ← testAll m rules
    let rest ← passing rules ms
    return if passes then m :: rest else rest

/-- Why the messages of a batch cannot all be tested, if they cannot. -/
def testFault? (r : Rule) (batch : List Message) : Option Text.TooManyDigits :=
  batch.findSome? fun m =>
    match r.test m with
    | .ok _ => none
    | .error e => some e

/-- Counts the matching messages of a batch as unread. -/
def countUnread (r : Rule) (batch : List Message) : Rule :=
  { r with unread := r.unread + batch.countP r.matches }

/-- Nothing is unread. -/
def markRead (r : Rule) : Rule :=
  { r with unread := 0 }

/-- A rule as it is shown for inspection. -/
def display (r : Rule) : Text :=
  let c := r.criteria
  "FilterRule(" ++ Text.quoted c.name ++ ", tag=" ++ Text.quoted c.tag
    ++ ", text=" ++ Text.quoted c.text ++ ", pid=" ++ Text.quoted c.pid
    ++ ", app=" ++ Text.quoted c.app ++ ", level=" ++ c.level.name ++ ")"

end Rule

/-- The name of the default rule. -/
def defaultRuleName : Text := "All messages (no filters)"

/-- The rule that every message passes. -/
def defaultRule : Rule :=
  ⟨.named defaultRuleName, ⟨none, none, none⟩, false, 0, rfl⟩

end LogViewer
