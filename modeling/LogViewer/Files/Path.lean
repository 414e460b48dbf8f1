import LogViewer.Text.Utf8

/-!
# Paths

A path is a row of steps from the root or from the working folder. Empty steps and single dots mean
nothing and are dropped; double dots stay. Two slashes at the beginning are kept apart from one,
and three or more count as one.

## Main definitions

- `Path`, `Path.ofText`, `Path.text`
- `Path.name`, `Path.parent`
- `Path.sibling`: the path with more characters at the end of its name
-/

namespace LogViewer

/-- A path of files or folders. -/
structure Path where
  /-- How many slashes it begins with: none, one or two. -/
  slashes : Nat
  steps : List Text
deriving DecidableEq, Repr

namespace Path

/-- Cuts at slashes, with the step read so far in reverse. -/
def cut : List CodePoint → List CodePoint → List (List CodePoint)
  | [], step => [step.reverse]
  | '/' :: rest, step => step.reverse :: cut rest []
  | c :: rest, step => cut rest (c :: step)

/-- Whether a step leads anywhere. -/
def leads (step : List CodePoint) : Bool := step != [] && step != [('.' : CodePoint)]

/-- How many leading slashes count. -/
def countedSlashes (text : List CodePoint) : Nat :=
  let n := (text.takeWhile (· == ('/' : CodePoint))).length
  if 2 < n then 1 else n

/-- Reads a path. -/
def ofText (text : Text) : Path :=
  ⟨countedSlashes text.toList, ((cut text.toList []).filter leads).map Text.ofList⟩

/-- The text of a path. -/
def text (p : Path) : Text :=
  if p.slashes = 0 ∧ p.steps = [] then "."
  else Text.ofList (List.replicate p.slashes '/') ++ Text.intercalate "/" p.steps

/-- The last step, empty if there is none. -/
def name (p : Path) : Text := p.steps.getLast?.getD ""

/-- The path without its last step. -/
def parent (p : Path) : Path := { p with steps := p.steps.dropLast }

/-- The path of a child. -/
def child (p : Path) (step : Text) : Path := { p with steps := p.steps ++ [step] }

/-- The path whose name has some more characters. -/
def sibling (p : Path) (ending : Text) : Path := p.parent.child (p.name ++ ending)

/-- Another path taken from this one, unless it begins at the root. -/
def join (p other : Path) : Path :=
  if other.slashes = 0 then { p with steps := p.steps ++ other.steps } else other

/-! ## §2 Paths that are none -/

/-- Why no file can have a path. -/
inductive Fault where
  /-- It holds a surrogate that stands for no byte. -/
  | unencodable (e : Text.Utf8.Unencodable)
  /-- It holds a null character. -/
  | embeddedNull
deriving DecidableEq, Repr

/-- The text of the complaint. -/
def Fault.message : Fault → Text
  | unencodable e => e.message
  | embeddedNull => "embedded null byte"

/-- Whether a path has a character that no path may have. -/
def hasNull (p : Path) : Bool := p.text.contains '\x00'

/-- What is wrong with a path, before the system is asked about it. -/
def fault? (p : Path) : Option Fault :=
  match Text.Utf8.nameFault? p.text with
  | some e => some (.unencodable e)
  | none => if p.hasNull then some .embeddedNull else none

end Path

end LogViewer
