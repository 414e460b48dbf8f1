import LogViewer.Json.Reader
import LogViewer.Json.Writer
import LogViewer.Rule

/-!
# Saved rules

Rules are saved as text, one JSON object a line:

    {"name": "gms", "tag": "", "text": "", "pid": "", "app": "com.google", "level": "W"}

The reader wants a name and fills in what else is missing. A process number may also be written as
a number.

## Main definitions

- `encode`: the line of some criteria
- `decode`: the rule of a line
- `DecodeError`: why a line is no rule
-/

namespace LogViewer.SavedRule

/-! ## §1 Writing -/

/-- The line of some criteria, as characters. -/
def encodeChars (c : Criteria) : List CodePoint :=
  Json.writeObject [("name", c.name), ("tag", c.tag), ("text", c.text), ("pid", c.pid),
    ("app", c.app), ("level", c.level.letterText)]

/-- The line of some criteria. -/
def encode (c : Criteria) : Text :=
  Text.ofList (encodeChars c)

/-! ## §2 Reading -/

/-- Why a line is no rule. -/
inductive DecodeError where
  | json (e : Json.Error)
  | notAnObject (kind : Text)
  | missing (key : Text)
  | notAString (key kind : Text)
  | level (e : UnknownLevel)
  | rule (e : RuleError)
deriving DecidableEq, Repr

/-- The text of the complaint. -/
def DecodeError.message : DecodeError → Text
  | json e => e.message
  | notAnObject kind => "expected an object, got " ++ kind
  | missing key => Text.quoted key
  | notAString key kind => (Text.quoted key ++ " must be a string, got " ++ kind)
  | level e => e.message
  | rule e => e.message

/-- The text of a key, or the text for a key that is not there. -/
def field (members : Json.Members) (key otherwise : Text) : Except DecodeError Text :=
  match Json.Value.get? members key with
  | none => .ok otherwise
  | some (.str s) => .ok s
  | some v => .error (.notAString key v.kindName)

/-- The process number, which may be a number. -/
def pidField (members : Json.Members) : Except DecodeError Text :=
  match Json.Value.get? members "pid" with
  | some (.int n) => .ok (toString n)
  | _ => field members "pid" ""

/-- The level of a key's text. -/
def levelField (members : Json.Members) : Except DecodeError Level := do
  let text ← field members "level" (Level.verbose.letterText)
  (Level.parse text).mapError .level

/-- The criteria of an object. -/
def criteriaOf (members : Json.Members) : Except DecodeError Criteria := do
  if (Json.Value.get? members "name").isNone then throw (.missing "name")
  let name ← field members "name" ""
  let tag ← field members "tag" ""
  let text ← field members "text" ""
  let pid ← pidField members
  let app ← field members "app" ""
  let level ← levelField members
  return ⟨name, tag, text, pid, app, level⟩

/-- The criteria of a line, if it is an object that has all of them. -/
def criteria? (line : Text) : Option Criteria :=
  match Json.read line with
  | .ok (.obj members) => (criteriaOf members).toOption
  | _ => none

/-- The rule of a line. -/
def decode (line : Text) : Except DecodeError Rule := do
  match ← (Json.read line).mapError .json with
  | .obj members =>
    let criteria ← criteriaOf members
    (Rule.build criteria false).mapError .rule
  | v => throw (.notAnObject v.kindName)

end LogViewer.SavedRule
