import LogViewer.Level
import LogViewer.Store

/-!
# The command line

The options of the command line have long names, which may be cut short as long as only one option
begins so, and some have letters, which may be written together. A value follows as the next word,
or is attached: after an equals sign, or directly after a letter.

Reading goes in two passes. The first one decides for each word whether it is an option; from a word
of two dashes on none is. The second one takes the options from left to right.

## Main definitions

- `Options`: what the user asks for
- `Flag`: the options
- `Word.ofString`: the first pass for one word
- `CommandLine.parse`: the options of some words
- `Stop`: why there are none
-/

namespace LogViewer.CommandLine

/-! ## §1 Options -/

/-- What the user asks for. -/
structure Options where
  file : Option Text
  adb : Bool
  serial : Option Text
  maximum : Int
  filters : Option Text
  level : Level
  app : Option Text
deriving DecidableEq, Repr

/-- The options of the command line. -/
inductive Flag where
  | help
  | file
  | adb
  | serial
  | maximum
  | filters
  | level
  | app
deriving DecidableEq, Repr

namespace Flag

/-- All spellings in order. -/
def spellings : List (Text × Flag) :=
  [("-h", help), ("--help", help), ("-f", file), ("--file", file), ("-a", adb), ("--adb", adb),
    ("-s", serial), ("--serial", serial), ("--max-messages", maximum), ("--filters", filters),
    ("--level", level), ("--app", app)]

/-- The option of a spelling. -/
def ofSpelling? (s : Text) : Option Flag := spellings.lookup s

/-- The option of a letter. -/
def ofLetter? (c : CodePoint) : Option Flag := ofSpelling? (Text.ofList ['-', c])

/-- Whether an option has a value. -/
def takesValue : Flag → Bool
  | help => false
  | adb => false
  | _ => true

/-- The name of an option in messages: its spellings. -/
def name (f : Flag) : Text :=
  Text.intercalate "/" ((spellings.filter (·.2 = f)).map (·.1))

end Flag

/-- Why there are no options to work with. -/
inductive Stop where
  | help
  /-- The command line is refused with a message. -/
  | refused (message : Text)
deriving DecidableEq, Repr

/-- Refuses the use of an option. -/
def refuseFlag {α : Type} (f : Flag) (what : Text) : Except Stop α :=
  .error (.refused ("argument " ++ f.name ++ ": " ++ what))

/-- Refuses a value that is attached to an option without one. -/
def refuseAttached {α : Type} (f : Flag) (value : List CodePoint) : Except Stop α :=
  refuseFlag f ("ignored explicit argument " ++ (Text.quoted (Text.ofList value)))

/-! ## §2 Words -/

/-- What is attached to an option: characters after an equals sign or directly after a letter. -/
structure Attached where
  equals : Bool
  value : List CodePoint
deriving DecidableEq, Repr

/-- What a word is. -/
inductive Kind where
  | value
  | dashes
  | unknown
  | option (f : Flag) (letter : Bool) (attached : Option Attached)
deriving DecidableEq, Repr

/-- A word with what it is. -/
structure Word where
  text : Text
  kind : Kind
deriving DecidableEq, Repr

/-- Whether digits make up a text, at least one. -/
def isDigits (s : List CodePoint) : Bool := s != [] && s.all Text.isDecimal

/-- Whether a text is a negative number: a dash, digits, and perhaps a point followed by digits. One
line feed may end it. -/
def isNegativeNumber (s : List CodePoint) : Bool :=
  match s with
  | '-' :: rest =>
    let rest := if rest.getLast? = some ('\n' : CodePoint) then rest.dropLast else rest
    let whole := rest.takeWhile Text.isDecimal
    match rest.drop whole.length with
    | [] => whole != []
    | '.' :: fraction => isDigits fraction
    | _ => false
  | _ => false

/-- Cuts a text at the first equals sign. -/
def cutAtEquals (s : List CodePoint) : List CodePoint × Option (List CodePoint) :=
  match s.dropWhile (· != ('=' : CodePoint)) with
  | [] => (s, none)
  | _ :: value => (s.takeWhile (· != ('=' : CodePoint)), some value)

/-- The options that a long name may be cut short from. -/
def longCandidates (start : List CodePoint) : List (Text × Flag) :=
  Flag.spellings.filter fun s => start.isPrefixOf s.1.toList

/-- What a word of a long name is, which no spelling is equal to. -/
def longKind (text : Text) (s : List CodePoint) : Except Stop Kind :=
  let (start, value) := cutAtEquals s
  match longCandidates start with
  | [] => .ok (if s.contains ' ' then .value else .unknown)
  | [(_, f)] => .ok (.option f false (value.map fun v => ⟨true, v⟩))
  | more =>
    let names := Text.intercalate ", " (more.map (·.1))
    .error (.refused ("ambiguous option: " ++ text ++ " could match " ++ names))

/-- What a word of letters is, which no spelling is equal to. -/
def lettersKind (c : CodePoint) (rest : List CodePoint) : Kind :=
  match Flag.ofLetter? c, rest with
  | some f, '=' :: value => .option f true (some ⟨true, value⟩)
  | some f, rest => .option f true (some ⟨false, rest⟩)
  | none, rest =>
    let s : List CodePoint := '-' :: c :: rest
    if isNegativeNumber s || s.contains ' ' then .value else .unknown

/-- What a word is. -/
def kindOf (text : Text) : Except Stop Kind :=
  match Flag.ofSpelling? text, text.toList with
  | some f, s => .ok (.option f (s.length = 2) none)
  | none, '-' :: '-' :: rest => longKind text ('-' :: '-' :: rest)
  | none, '-' :: c :: rest => .ok (lettersKind c rest)
  | none, _ => .ok .value

/-- The first pass. -/
def words : List Text → Except Stop (List Word)
  | [] => .ok []
  | "--" :: rest => .ok (⟨"--", .dashes⟩ :: rest.map fun text => ⟨text, .value⟩)
  | text :: rest => do
    let kind ← kindOf text
    let more ← words rest
    return ⟨text, kind⟩ :: more

/-! ## §3 Taking options -/

/-- What was taken so far. -/
structure Taken where
  file : Option Text
  adb : Bool
  serial : Option Text
  maximum : Int
  filters : Option Text
  level : Text
  app : Option Text
  /-- Words that belong to no option, the first one first. -/
  extra : List Text

/-- What holds if nothing is taken. -/
def Taken.initial : Taken :=
  ⟨none, false, none, defaultCapacity, none, Level.verbose.letterText, none, []⟩

/-- Takes an option with its value. -/
def Taken.take (t : Taken) (f : Flag) (value : Text) : Except Stop Taken :=
  match f with
  | .help => .error .help
  | .file =>
    if t.adb then refuseFlag f ("not allowed with argument " ++ Flag.adb.name)
    else .ok { t with file := some value }
  | .adb =>
    if t.file.isSome then refuseFlag f ("not allowed with argument " ++ Flag.file.name)
    else .ok { t with adb := true }
  | .serial => .ok { t with serial := some value }
  | .maximum =>
    match Text.readInt value.toList with
    | .ok n => .ok { t with maximum := n }
    | .error _ => refuseFlag f ("invalid int value: " ++ Text.quoted value)
  | .filters => .ok { t with filters := some value }
  | .level => .ok { t with level := value }
  | .app => .ok { t with app := some value }

/-- Takes options without values. -/
def Taken.takeAll (t : Taken) : List Flag → Except Stop Taken
  | [] => .ok t
  | f :: rest => do (← t.take f "").takeAll rest

/-- What a word of letters written together holds: letters of options without values, and at the end
perhaps an option with a value, which may be attached, or letters that are no option. -/
structure Cluster where
  plain : List Flag
  valued : Option (Flag × Option (List CodePoint))
  unknown : Option (List CodePoint)

/-- A letter before the others. -/
def Cluster.cons (f : Flag) (c : Cluster) : Cluster := { c with plain := f :: c.plain }

/-- Reads a word of letters from an option and what is attached to it. -/
def cluster (f : Flag) : Bool → List CodePoint → Except Stop Cluster
  | equals, value =>
    if f.takesValue then .ok ⟨[], some (f, some value), none⟩
    else
      match value with
      | [] => refuseAttached f []
      | c :: rest =>
        if equals || c = '-' then refuseAttached f value
        else
          match Flag.ofLetter? c with
          | none => .ok ⟨[f], none, some ('-' :: value)⟩
          | some g =>
            match rest with
            | [] => .ok (if g.takesValue then ⟨[f], some (g, none), none⟩ else ⟨[f, g], none, none⟩)
            | '=' :: value => (cluster g true value).map (Cluster.cons f)
            | more => (cluster g false more).map (Cluster.cons f)
termination_by _ value => value.length

/-- The value of an option that none is attached to: the next word, if it is a value. -/
def nextValue (f : Flag) : List Word → Except Stop (Text × List Word)
  | ⟨text, .value⟩ :: rest => .ok (text, rest)
  | _ => refuseFlag f "expected one argument"

/-- What an option with its word comes to, before it is taken: options without values, perhaps one
with a value, and a word that belongs to none. Gives the words after it. -/
def readOption (f : Flag) (letter : Bool) (attached : Option Attached) (rest : List Word) :
    Except Stop (List Flag × Option (Flag × Text) × Option Text × List Word) := do
  let found ← match attached with
    | none => pure (if f.takesValue then ⟨[], some (f, none), none⟩ else ⟨[f], none, none⟩)
    | some a =>
      if letter then cluster f a.equals a.value
      else if f.takesValue then pure ⟨[], some (f, some a.value), none⟩
      else refuseAttached f a.value
  let unknown := found.unknown.map Text.ofList
  match found.valued with
  | none => return (found.plain, none, unknown, rest)
  | some (g, some value) => return (found.plain, some (g, Text.ofList value), unknown, rest)
  | some (g, none) =>
    let (value, rest) ← nextValue g rest
    return (found.plain, some (g, value), unknown, rest)

/-- Adds a word that belongs to no option. -/
def Taken.leave (t : Taken) (text : Text) : Taken := { t with extra := t.extra ++ [text] }

/-- The second pass; each step takes at least one word. -/
def takeWords : Nat → Taken → List Word → Except Stop Taken
  | 0, t, _ => .ok t
  | _ + 1, t, [] => .ok t
  | n + 1, t, ⟨text, kind⟩ :: rest =>
    match kind with
    | .option f letter attached => do
      let (plain, valued, unknown, rest) ← readOption f letter attached rest
      let t := match unknown with
        | some text => t.leave text
        | none => t
      let t ← t.takeAll plain
      match valued with
      | none => takeWords n t rest
      | some (g, value) => takeWords n (← t.take g value) rest
    | _ => takeWords n (t.leave text) rest

/-! ## §4 The command line -/

/-- Checks what was taken as a whole. -/
def Taken.options (t : Taken) : Except Stop Options := do
  if t.file.isNone && !t.adb then
    throw (.refused ("one of the arguments " ++ Flag.file.name ++ " " ++ Flag.adb.name
      ++ " is required"))
  unless t.extra.isEmpty do
    throw (.refused ("unrecognized arguments: " ++ Text.intercalate " " t.extra))
  if t.maximum < 1 then throw (.refused "--max-messages must be at least 1")
  match Level.parse t.level with
  | .ok level => return ⟨t.file, t.adb, t.serial, t.maximum, t.filters, level, t.app⟩
  | .error e => throw (.refused e.message)

/-- The options of the words after the program's name. -/
def parse (args : List Text) : Except Stop Options := do
  let ws ← words args
  (← takeWords ws.length .initial ws).options

/-- The line that reports a refused command line. -/
def refusalLine (message : Text) : Text := "logcatpanel: error: " ++ message

end LogViewer.CommandLine
