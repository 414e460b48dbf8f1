import LogViewer.Pattern.Error
import LogViewer.Pattern.Tree

/-!
# Pattern text as tokens

A pattern is read token by token: a backslash and the character after it are one token, any other
character is a token of its own. The reader looks one token ahead, so a backslash at the very end is
refused as soon as it comes into view. Beside the text, the reading state holds what was learnt so
far: flags, groups and group references.

## Main definitions

- `Token`, `State`: tokens and the reading state
- `Read`: steps that read
- `advance`, `take`, `accept`: moving ahead
- `takeUntil`, `takeDigits`: names and rows of digits
- `openGroup`, `closeGroup`, `requireClosed`: the book of groups
-/

namespace LogViewer.Pattern

/-! ## §1 Tokens and state -/

/-- A token of a pattern. -/
inductive Token where
  | plain (c : CodePoint)
  | escape (c : CodePoint)
deriving DecidableEq, Repr

namespace Token

/-- The characters of a token. -/
def chars : Token → List CodePoint
  | plain c => [c]
  | escape c => ['\\', c]

/-- The text of a token. -/
def text (t : Token) : Text := Text.ofList t.chars

end Token

/-- The state of reading a pattern. -/
structure State where
  /-- The token in view. -/
  next : Option Token
  /-- The text after the token in view. -/
  rest : List CodePoint
  /-- The position after the token in view. -/
  index : Nat
  /-- The flags of the whole pattern so far. -/
  flags : Flags
  /-- The numbers of named groups. -/
  names : List (Text × Nat)
  /-- The widths of the groups, none for one that is still open; group 0 never closes. -/
  widths : List (Option Width)
  /-- Inside a look-behind, the number of groups there were before the outermost one. -/
  lookbehind : Option Nat
  /-- Group numbers that conditions refer to, with the position of the first reference. -/
  conditions : List (Nat × Nat)

/-- Steps that read a pattern. -/
abbrev Read := StateT State (Except Error)

namespace Read

/-- Position of the token in view. -/
def position : Read Nat := do
  let s ← get
  return s.index - (s.next.map (·.chars.length)).getD 0

/-- Refuses the pattern with a fault that lies `back` characters before the token in view. -/
def refuse {α : Type} (cause : Cause) (back : Nat) : Read α := do
  let here ← position
  throw (.grammar cause (some (here - back)))

/-! ## §2 Moving ahead -/

/-- Brings the next token into view. -/
def advance : Read Unit := do
  let s ← get
  match s.rest with
  | [] => set { s with next := none }
  | ['\\'] => throw (.grammar .badEscapeAtEnd (some s.index))
  | '\\' :: c :: rest => set { s with next := some (.escape c), rest, index := s.index + 2 }
  | c :: rest => set { s with next := some (.plain c), rest, index := s.index + 1 }

/-- Takes the token in view. -/
def take : Read (Option Token) := do
  let s ← get
  advance
  return s.next

/-- Moves past a character if it is in view. -/
def accept (c : CodePoint) : Read Bool := do
  let s ← get
  if s.next = some (.plain c) then
    advance
    return true
  else return false

/-- Takes up to `n` characters of a class. -/
def takeWhile (holds : CodePoint → Bool) : Nat → Read (List CodePoint)
  | 0 => return []
  | n + 1 => do
    let s ← get
    match s.next with
    | some (.plain c) =>
      if holds c then
        advance
        let more ← takeWhile holds n
        return c :: more
      else return []
    | _ => return []

/-- Takes the characters of a class, however many there are. -/
def takeAll (holds : CodePoint → Bool) : Read (List CodePoint) := do
  let s ← get
  takeWhile holds (s.rest.length + 1)

/-- Takes a name up to its terminator, with fuel and what was read so far in reverse. -/
def takeUntilFrom (terminator : CodePoint) (what : Text) :
    Nat → List CodePoint → Read (List CodePoint)
  | 0, name => return name.reverse
  | fuel + 1, name => do
    let t ← take
    match t with
    | none =>
      if name.isEmpty then refuse (.missingName what) 0
      else refuse (.unterminatedName terminator) name.length
    | some t =>
      if t = .plain terminator then
        if name.isEmpty then refuse (.missingName what) 1 else return name.reverse
      else takeUntilFrom terminator what fuel (t.chars.reverse ++ name)

/-- Takes a name up to its terminator, which is taken too. -/
def takeUntil (terminator : CodePoint) (what : Text) : Read (List CodePoint) := do
  let s ← get
  takeUntilFrom terminator what (s.rest.length + 2) []

/-! ## §3 Groups -/

/-- Whether a group is complete. -/
def isClosed (group : Nat) : Read Bool := do
  let s ← get
  return (s.widths[group]?.bind id).isSome

/-- Inside a look-behind only groups from before it may be referred to. -/
def requireBeforeLookbehind (group : Nat) : Read Unit := do
  let s ← get
  match s.lookbehind with
  | none => return ()
  | some limit =>
    if !(← isClosed group) then refuse .openGroup 0
    if limit ≤ group then refuse .groupOfLookbehind 0

/-- A reference to a group, which must be complete; `back` places the complaint. -/
def referTo (group back : Nat) : Read Atom := do
  let s ← get
  match s.widths[group]?.bind id with
  | none => refuse .openGroup back
  | some width =>
    requireBeforeLookbehind group
    return .backref group width

/-- Numbers a new group and registers its name. -/
def openGroup (name : Option Text) : Read Nat := do
  let s ← get
  let group := s.widths.length
  match name with
  | none => set { s with widths := s.widths ++ [none] }
  | some name =>
    match s.names.lookup name with
    | some earlier => refuse (.redefinedGroup name group earlier) (name.length + 1)
    | none => set { s with widths := s.widths ++ [none], names := (name, group) :: s.names }
  return group

/-- Completes a group. -/
def closeGroup (group : Nat) (width : Width) : Read Unit :=
  modify fun s => { s with widths := s.widths.set group (some width) }

/-- Notes the position of the first condition on a group. -/
def noteCondition (group position : Nat) : Read Unit :=
  modify fun s =>
    if (s.conditions.lookup group).isSome then s
    else { s with conditions := s.conditions ++ [(group, position)] }

end Read

end LogViewer.Pattern
