import LogViewer.Pattern.Source
import LogViewer.Text.Blank
import LogViewer.Text.CharacterName
import LogViewer.Text.Identifier

/-!
# Reading patterns

The grammar of patterns, over the tokens of `LogViewer.Pattern.Source`: escapes, sets, repetitions,
groups with their extensions, and alternatives. The order of the steps decides which of two faults
is reported.

## Main definitions

- `readEscape`, `readSetEscape`: escapes outside and inside sets
- `readSet`: a character set after its bracket
- `readCount`: the numbers of a repetition in braces
- `readOpening`: what follows an opening parenthesis
- `readChoices`, `readItems`: alternatives and sequences
- `readPattern`: a whole pattern, with its final flags
-/

namespace LogViewer.Pattern

open Read

/-! ## §1 Escapes -/

/-- A hexadecimal digit. -/
def isHexDigit (c : CodePoint) : Bool :=
  ('0' ≤ c && c ≤ '9') || ('a' ≤ c && c ≤ 'f') || ('A' ≤ c && c ≤ 'F')

/-- An octal digit. -/
def isOctalDigit (c : CodePoint) : Bool := '0' ≤ c && c ≤ '7'

/-- An ASCII digit. -/
def isPlainDigit (c : CodePoint) : Bool := '0' ≤ c && c ≤ '9'

/-- An ASCII letter. -/
def isPlainLetter (c : CodePoint) : Bool := Text.isAsciiLetter c.toNat

/-- Value of a hexadecimal digit of either case. -/
def digitOf (c : CodePoint) : Nat :=
  if 'a' ≤ c then c.toNat - 87 else if 'A' ≤ c then c.toNat - 55 else c.toNat - 48

/-- Value of a row of digits in a base. -/
def valueOf (base : Nat) (digits : List CodePoint) : Nat :=
  digits.foldl (fun n c => n * base + digitOf c) 0

/-- The character of a control escape. -/
def controlCode? : CodePoint → Option Nat
  | 'a' => some 7
  | 'b' => some 8
  | 'f' => some 12
  | 'n' => some 10
  | 'r' => some 13
  | 't' => some 9
  | 'v' => some 11
  | '\\' => some 92
  | _ => none

/-- The kind of character that a letter stands for, and whether it is negated. -/
def kindOf? : CodePoint → Option (Kind × Bool)
  | 'd' => some (.digit, false)
  | 'D' => some (.digit, true)
  | 's' => some (.space, false)
  | 'S' => some (.space, true)
  | 'w' => some (.word, false)
  | 'W' => some (.word, true)
  | _ => none

/-- The position test of a letter. -/
def anchorOf? : CodePoint → Option Anchor
  | 'A' => some .textStart
  | 'b' => some (.boundary false)
  | 'B' => some (.boundary true)
  | 'Z' => some .textEnd
  | _ => none

/-- An escape as it was written, for a complaint. -/
def escapeText (c : CodePoint) (digits : List CodePoint) : Text :=
  Text.ofList ('\\' :: c :: digits)

/-- Exactly `n` hexadecimal digits after an escape letter. -/
def readHex (c : CodePoint) (n : Nat) : Read Nat := do
  let digits ← Read.takeWhile isHexDigit n
  if digits.length < n then refuse (.incompleteEscape (escapeText c digits)) (digits.length + 2)
  let code := valueOf 16 digits
  if 0x10ffff < code then refuse (.badEscape (escapeText c digits)) (digits.length + 2)
  return code

/-- A character given by its name in braces. -/
def readNamed : Read Nat := do
  if !(← accept '\x7b') then refuse .missingBrace 0
  let name ← takeUntil '\x7d' "character name"
  match (name.mapM CodePoint.char?).bind Text.characterNamed? with
  | some code => return code
  | none => refuse (.undefinedCharacter (Text.ofList name)) (name.length + 4)

/-- Escapes with the same meaning inside and outside sets: hexadecimal and named characters, and
punctuation that stands for itself. -/
def readCodeEscape (c : CodePoint) : Read Nat := do
  match c with
  | 'x' => readHex c 2
  | 'u' => readHex c 4
  | 'U' => readHex c 8
  | 'N' => readNamed
  | _ =>
    if isPlainLetter c || isPlainDigit c then refuse (.badEscape (escapeText c [])) 2
    else return c.toNat

/-- Up to `n` more octal digits after the first one. -/
def readOctal (first : CodePoint) (n : Nat) : Read Nat := do
  let digits ← Read.takeWhile isOctalDigit n
  let code := valueOf 8 (first :: digits)
  if 0o377 < code then refuse (.octalTooLarge (escapeText first digits)) (digits.length + 2)
  return code

/-- An escape inside a set: a character or a kind of character. -/
def readSetEscape (c : CodePoint) : Read Member := do
  match controlCode? c with
  | some code => return .code code
  | none =>
    match kindOf? c with
    | some (kind, negated) => return .kind kind negated
    | none =>
      if isOctalDigit c then return .code (← readOctal c 2)
      else return .code (← readCodeEscape c)

/-- A back reference or an octal character: three octal digits are a character, and one or two
digits are a group. -/
def readNumbered (c : CodePoint) : Read Atom := do
  let refer (digits : List CodePoint) : Read Atom := do
    let group := valueOf 10 digits
    if group < (← get).widths.length then referTo group (digits.length + 1)
    else refuse (.invalidReference group) digits.length
  match (← get).next with
  | some (.plain d) =>
    if isPlainDigit d then
      advance
      match (← get).next with
      | some (.plain e) =>
        if isOctalDigit c && isOctalDigit d && isOctalDigit e then
          advance
          let code := valueOf 8 [c, d, e]
          if 0o377 < code then refuse (.octalTooLarge (escapeText c [d, e])) 4
          return .literal code
        else refer [c, d]
      | _ => refer [c, d]
    else refer [c]
  | _ => refer [c]

/-- An escape outside sets. -/
def readEscape (c : CodePoint) : Read Atom := do
  match kindOf? c with
  | some (kind, negated) => return .set false [.kind kind negated]
  | none =>
    match anchorOf? c with
    | some anchor => return .anchor anchor
    | none =>
      match controlCode? c with
      | some code => return .literal code
      | none =>
        if c = '0' then return .literal (← readOctal c 2)
        else if isPlainDigit c then readNumbered c
        else return .literal (← readCodeEscape c)

/-! ## §2 Sets -/

/-- A member of a set that starts with a token. -/
def readMember : Token → Read Member
  | .plain c => return .code c.toNat
  | .escape c => readSetEscape c

/-- Reads the members of a set up to its closing bracket; `start` is the position of the set, and
the members read so far are given in reverse. -/
def readMembers (start : Nat) : Nat → List Member → Read (List Member)
  | 0, members => return members.reverse
  | fuel + 1, members => do
    let unterminated {α : Type} : Read α := do
      refuse .unterminatedSet ((← position) - start)
    match ← take with
    | none => unterminated
    | some t =>
      if t = .plain ']' ∧ members ≠ [] then return members.reverse
      else
        let first ← readMember t
        if ← accept '-' then
          match ← take with
          | none => unterminated
          | some u =>
            if u = .plain ']' then return (.code 45 :: first :: members).reverse
            else
              let last ← readMember u
              match first, last with
              | .code lo, .code hi =>
                if hi < lo then
                  refuse (.badRange t.text u.text) (t.chars.length + 1 + u.chars.length)
                else readMembers start fuel (.range lo hi :: members)
              | _, _ => refuse (.badRange t.text u.text) (t.chars.length + 1 + u.chars.length)
        else readMembers start fuel (first :: members)

/-- The members of a list at their first occurrence. -/
def firstOccurrences (members : List Member) : List Member :=
  members.foldl (fun seen m => if seen.contains m then seen else seen ++ [m]) []

/-- Reads a set after its opening bracket. -/
def readSet : Read Atom := do
  let start := (← position) - 1
  let negated ← accept '^'
  let members ← readMembers start ((← get).rest.length + 2) []
  match firstOccurrences members with
  | [.code n] => return if negated then .notLiteral n else .literal n
  | members => return .set negated members

/-! ## §3 Repetitions -/

/-- Repetition numbers from here on cannot be counted. -/
def countLimit : Nat := Nat.pow 2 32 - 1

/-- Reads a repetition number. -/
def readNumber (digits : List CodePoint) : Read Nat := do
  match Text.readNat digits with
  | .error e => throw (.tooManyDigits e)
  | .ok n => if n < countLimit then return n else throw .repetitionTooLarge

/-- The numbers of a repetition after its opening brace; if the text is no repetition, the brace
stands for itself and nothing after it is taken. -/
def readCount : Read (Option (Nat × Option Nat)) := do
  let start ← get
  let here ← position
  if start.next = some (.plain '\x7d') then return none
  let low ← takeAll isPlainDigit
  let high ← if ← accept ',' then takeAll isPlainDigit else pure low
  if !(← accept '\x7d') then
    set start
    return none
  let least ← if low.isEmpty then pure 0 else readNumber low
  if high.isEmpty then return some (least, none)
  let greatest ← readNumber high
  if greatest < least then refuse .leastAboveGreatest ((← position) - here)
  return some (least, some greatest)

/-- Reads the mark behind a repetition. A question mark is the whole mark: a plus sign after it is a
repetition of its own. -/
def readMode : Read Mode := do
  if ← accept '?' then return .lazy
  if ← accept '+' then return .possessive
  return .greedy

/-- Puts a repetition in place of the last item; `start` is the position of its mark. -/
def repeatLast (start least : Nat) (greatest : Option Nat) :
    List (Tree Atom) → Read (List (Tree Atom))
  | [] => do refuse .nothingToRepeat ((← position) - start)
  | .leaf (.anchor _) :: _ => do refuse .nothingToRepeat ((← position) - start)
  | .iterate _ _ _ _ :: _ => do refuse .multipleRepeat ((← position) - start)
  | item :: items => do
    let mode ← readMode
    return .iterate mode least greatest item :: items

/-! ## §4 Opening parentheses -/

/-- What an opening parenthesis begins. -/
inductive Opening where
  /-- A comment, or flags for the whole pattern: no item. -/
  | nothing
  | reference (a : Atom)
  | capture (name : Option Text)
  | scoped (on off : Flags)
  | atomic
  | look (behind negated : Bool)
  | conditional (group : Nat)

/-- The flag of a token. A token that is no flag letter is refused, a letter as unknown and any
other as a sign that something else is missing. -/
def flagOf (t : Token) (missing : Cause) : Read Flags := do
  match t with
  | .plain c =>
    match Flags.ofLetter? c with
    | some flag => return flag
    | none => refuse (if Text.isLetter c.toNat then .unknownFlag else missing) 1
  | .escape _ => refuse missing 2

/-- Reads the flags to turn on, from a flag letter on, up to one of the closing marks. -/
def readFlagsOn : Nat → Flags → Token → Read (Flags × Token)
  | 0, on, t => return (on, t)
  | fuel + 1, on, t => do
    if t = .plain 'L' then refuse .localeFlag 0
    let flag ← flagOf t .missingFlagEnd
    let on := on.union flag
    if (flag.ascii || flag.unicode) && on.ascii && on.unicode then refuse .incompatibleFlags 0
    match ← take with
    | none => refuse .missingFlagEnd 0
    | some t =>
      if t = .plain ')' ∨ t = .plain '-' ∨ t = .plain ':' then return (on, t)
      else readFlagsOn fuel on t

/-- Reads the flags to turn off, from a flag letter on, up to the colon. -/
def readFlagsOff : Nat → Flags → Token → Read Flags
  | 0, off, _ => return off
  | fuel + 1, off, t => do
    if t = .plain 'L' then refuse .classFlagOff 0
    let flag ← flagOf t (if off = .plain then .missingFlag else .missingColon)
    if flag.ascii || flag.unicode then refuse .classFlagOff 0
    let off := off.union flag
    match ← take with
    | none => refuse .missingColon 0
    | some t => if t = .plain ':' then return off else readFlagsOff fuel off t

/-- Reads inline flags from their first token on. Flags that end in a parenthesis hold for the whole
pattern. -/
def readFlags (t : Token) : Read (Option (Flags × Flags)) := do
  let fuel := (← get).rest.length + 2
  let (on, mark) ← if t = .plain '-' then pure (Flags.plain, t) else readFlagsOn fuel .plain t
  if mark = .plain ')' then
    modify fun s => { s with flags := s.flags.union on }
    return none
  if on.template then refuse .globalFlagOn 1
  let off ←
    if mark = .plain '-' then
      match ← take with
      | none => refuse .missingFlag 0
      | some t => readFlagsOff fuel .plain t
    else pure Flags.plain
  if off.template then refuse .globalFlagOff 1
  if on.meets off then refuse .flagOnAndOff 1
  return some (on, off)

/-- Skips a comment in parentheses that began at `start`. -/
def skipComment (start : Nat) : Nat → Read Unit
  | 0 => return ()
  | fuel + 1 => do
    if (← get).next = none then refuse .unterminatedComment ((← position) - start)
    if (← take) = some (.plain ')') then return () else skipComment start fuel

/-- A group name, which must be an identifier. -/
def readGroupName (terminator : CodePoint) : Read Text := do
  let name ← takeUntil terminator "group name"
  if !Text.isIdentifier name then refuse (.badGroupName (Text.ofList name)) (name.length + 1)
  return Text.ofList name

/-- The group of a name. -/
def groupNamed (name : Text) : Read Nat := do
  match (← get).names.lookup name with
  | some group => return group
  | none => refuse (.unknownGroupName name) (name.length + 1)

/-- Group numbers in conditions stay below this bound. -/
def groupLimit : Nat := Nat.pow 2 30 - 1

/-- The group of a condition: a name, or a number as it may be written by hand. -/
def readCondition : Read Nat := do
  let chars ← takeUntil ')' "group name"
  let name := Text.ofList chars
  let group ←
    if Text.isIdentifier chars then groupNamed name
    else
      match Text.readInt chars with
      | .ok (.ofNat group) =>
        if group = 0 then refuse .badGroupNumber (chars.length + 1)
        if groupLimit ≤ group then refuse (.invalidReference group) (chars.length + 1)
        noteCondition group ((← position) - chars.length - 1)
        pure group
      | _ => refuse (.badGroupName name) (chars.length + 1)
  requireBeforeLookbehind group
  return group

/-- Reads what follows an opening parenthesis at `start`, up to the body. Flags for the whole
pattern may stand only where nothing is before them. -/
def readOpening (start : Nat) (nothingBefore : Bool) : Read Opening := do
  if !(← accept '?') then return .capture none
  match ← take with
  | none => refuse .unexpectedEnd 0
  | some (.plain 'P') =>
    if ← accept '<' then return .capture (some (← readGroupName '>'))
    else if ← accept '=' then
      let name ← readGroupName ')'
      return .reference (← referTo (← groupNamed name) (name.length + 1))
    else
      match ← take with
      | none => refuse .unexpectedEnd 0
      | some t => refuse (.unknownExtension ("P" ++ t.text)) (t.chars.length + 2)
  | some (.plain ':') => return .scoped .plain .plain
  | some (.plain '#') =>
    skipComment start ((← get).rest.length + 2)
    return .nothing
  | some (.plain '=') => return .look false false
  | some (.plain '!') => return .look false true
  | some (.plain '<') =>
    match ← take with
    | none => refuse .unexpectedEnd 0
    | some (.plain '=') => return .look true false
    | some (.plain '!') => return .look true true
    | some t => refuse (.unknownExtension ("<" ++ t.text)) (t.chars.length + 2)
  | some (.plain '(') => return .conditional (← readCondition)
  | some (.plain '>') => return .atomic
  | some t =>
    let isFlag : Bool :=
      match t with
      | .plain c => c == '-' || c == 'L' || (Flags.ofLetter? c).isSome
      | .escape _ => false
    if isFlag then
      match ← readFlags t with
      | some (on, off) => return .scoped on off
      | none =>
        if nothingBefore then return .nothing
        else refuse .lateGlobalFlags ((← position) - start)
    else refuse (.unknownExtension t.text) (t.chars.length + 1)

/-! ## §5 Sequences and alternatives -/

/-- White space that a verbose pattern ignores. -/
def isIgnored : Token → Bool
  | .plain c => Text.isAsciiBlankCode c.toNat
  | .escape _ => false

/-- Skips the rest of a line. -/
def skipLine : Nat → Read Unit
  | 0 => return ()
  | fuel + 1 => do
    match ← take with
    | none => return ()
    | some t => if t = .plain '\n' then return () else skipLine fuel

/-- Puts the items of plain groups in place of the groups. -/
def unwrapGroups (items : List (Tree Atom)) : List (Tree Atom) :=
  items.flatMap fun
    | .group none on off body => if on = .plain ∧ off = .plain then body.items else [.group none on off body]
    | item => [item]

/-- The members of a set that a choice of single characters amounts to. -/
def asMembers? : List (List (Tree Atom)) → Option (List Member)
  | [] => some []
  | [.leaf (.literal n)] :: rest => (asMembers? rest).map (.code n :: ·)
  | [.leaf (.set false members)] :: rest => (asMembers? rest).map (members ++ ·)
  | _ => none

/-- The leaf that all alternatives start with. -/
def sharedLeaf? : List (List (Tree Atom)) → Option Atom
  | [] => none
  | [.leaf a :: _] => some a
  | (.leaf a :: _) :: rest => if sharedLeaf? rest = some a then some a else none
  | _ => none

/-- Leaves that all alternatives share at their front, and the alternatives without them. -/
def splitShared : Nat → List (List (Tree Atom)) → List (Tree Atom) × List (List (Tree Atom))
  | 0, choices => ([], choices)
  | fuel + 1, choices =>
    match sharedLeaf? choices with
    | none => ([], choices)
    | some a =>
      let (shared, rest) := splitShared fuel (choices.map (·.drop 1))
      (.leaf a :: shared, rest)

/-- The items of a choice. One alternative is a sequence; leaves that all alternatives share come
before the choice, and a choice of single characters is a set. -/
def itemsOfChoices (choices : List (List (Tree Atom))) : List (Tree Atom) :=
  match choices with
  | [] => []
  | [items] => items
  | first :: _ =>
    let (shared, rest) := splitShared first.length choices
    match asMembers? rest with
    | some members => shared ++ [.leaf (.set false (firstOccurrences members))]
    | none =>
      match rest.map Tree.ofList with
      | [] => shared
      | t :: ts => shared ++ [.choices t ts]

/-- The closing parenthesis of a group that began at `start`. -/
def closeBody (start : Nat) : Read Unit := do
  if !(← accept ')') then refuse .unterminatedSubpattern ((← position) - start)

mutual

/-- Reads alternatives, with those read so far in reverse. -/
def readChoices : Nat → (nested verbose : Bool) → List (List (Tree Atom)) → Read (List (Tree Atom))
  | 0, _, _, _ => refuse .unexpectedEnd 0
  | fuel + 1, nested, verbose, choices => do
    let items ← readItems fuel verbose (!nested && choices.isEmpty) []
    let choices := unwrapGroups items :: choices
    if ← accept '|' then
      let s ← get
      readChoices fuel nested (if nested then verbose else s.flags.verbose) choices
    else return itemsOfChoices choices.reverse

/-- Reads the items of a sequence, with those read so far in reverse. Flags for the whole pattern
may only come `first`. -/
def readItems : Nat → (verbose first : Bool) → List (Tree Atom) → Read (List (Tree Atom))
  | 0, _, _, _ => refuse .unexpectedEnd 0
  | fuel + 1, verbose, first, items => do
    let push (a : Atom) : Read (List (Tree Atom)) := readItems fuel verbose first (.leaf a :: items)
    match (← get).next with
    | none => return items.reverse
    | some (.plain '|') => return items.reverse
    | some (.plain ')') => return items.reverse
    | some t =>
      let start ← position
      advance
      if verbose && isIgnored t then readItems fuel verbose first items
      else if verbose && t = .plain '#' then
        skipLine ((← get).rest.length + 2)
        readItems fuel verbose first items
      else
        match t with
        | .escape c => push (← readEscape c)
        | .plain '[' => push (← readSet)
        | .plain '.' => push .any
        | .plain '^' => push (.anchor .caret)
        | .plain '$' => push (.anchor .dollar)
        | .plain '*' => readItems fuel verbose first (← repeatLast start 0 none items)
        | .plain '+' => readItems fuel verbose first (← repeatLast start 1 none items)
        | .plain '?' => readItems fuel verbose first (← repeatLast start 0 (some 1) items)
        | .plain '\x7b' =>
          match ← readCount with
          | none => push (.literal 0x7b)
          | some (least, greatest) =>
            readItems fuel verbose first (← repeatLast start least greatest items)
        | .plain '(' =>
          match ← readOpening start (first && items.isEmpty) with
          | .nothing => do
            let whole := (← get).flags.verbose && first && items.isEmpty
            readItems fuel (verbose || whole) first items
          | .reference a => push a
          | .capture name => do
            let group ← openGroup name
            let body ← readChoices fuel true verbose []
            closeBody start
            let body := Tree.ofList body
            closeGroup group body.width
            readItems fuel verbose first (.group (some group) .plain .plain body :: items)
          | .scoped on off => do
            let body ← readChoices fuel true ((verbose || on.verbose) && !off.verbose) []
            closeBody start
            readItems fuel verbose first (.group none on off (.ofList body) :: items)
          | .atomic => do
            let body ← readChoices fuel true verbose []
            closeBody start
            readItems fuel verbose first (.atomic (.ofList body) :: items)
          | .look behind negated => do
            let outer := (← get).lookbehind
            if behind && outer.isNone then
              modify fun s => { s with lookbehind := some s.widths.length }
            let body ← readChoices fuel true verbose []
            modify fun s => { s with lookbehind := outer }
            closeBody start
            let body := Tree.ofList body
            let width := if behind then some body.width else none
            readItems fuel verbose first (.look width negated body :: items)
          | .conditional group => do
            let yes ← readItems fuel verbose false []
            let no ← if ← accept '|' then readItems fuel verbose false [] else pure []
            if (← get).next = some (.plain '|') then refuse .tooManyBranches 0
            closeBody start
            let yes := Tree.ofList (unwrapGroups yes)
            let no := Tree.ofList (unwrapGroups no)
            readItems fuel verbose first (.conditional group yes no :: items)
        | .plain c => push (.literal c.toNat)

end

/-! ## §6 Whole patterns -/

/-- Reads a whole pattern under the flags that hold from outside. At most two calls nest for each
character, so twice the length is fuel enough. -/
def readWhole (length : Nat) : Read (Tree Atom × Flags) := do
  advance
  let outer ← get
  let items ← readChoices (2 * length + 4) false outer.flags.verbose []
  let s ← get
  if s.flags.ascii && s.flags.unicode then throw .asciiAndUnicode
  if s.next.isSome then refuse .unbalancedParenthesis 0
  match s.conditions.find? fun c => s.widths.length ≤ c.1 with
  | some (group, position) => throw (.grammar (.invalidReference group) (some position))
  | none => return (Tree.ofList items, s.flags)

/-- Reads a pattern: its tree and the flags of the whole pattern. -/
def readPattern (pattern : List CodePoint) (flags : Flags) : Except Error (Tree Atom × Flags) :=
  let start : State :=
    { next := none, rest := pattern, index := 0, flags, names := [], widths := [none],
      lookbehind := none, conditions := [] }
  (readWhole pattern.length start).map (·.1)

end LogViewer.Pattern
