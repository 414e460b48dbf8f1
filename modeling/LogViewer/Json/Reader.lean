import LogViewer.Json.Value

/-!
# Reading JSON

A reader for one JSON text. It works on what remains of the text, and a fault records how much
remained, so that the position is the difference to the length of the whole text. Besides the
standard grammar, `NaN`, `Infinity` and `-Infinity` are numbers. White space is the four characters
of the standard; control characters inside strings are refused.

## Main definitions

- `Cause`, `Error`: why a text is refused, with `Error.message`
- `readString`: the rest of a string after its opening quote
- `readNumber`: a number
- `readValue`: one value, with fuel
- `read`: a whole text
-/

namespace LogViewer.Json

open LogViewer.Text (TooManyDigits readNat)

/-! ## §1 Errors -/

/-- Why a text is no JSON text. -/
inductive Cause where
  | expectingValue
  | expectingName
  | expectingColon
  | expectingComma
  | unterminatedString
  | controlCharacter
  | badEscape
  | badUnicodeEscape
  | extraData
  | byteOrderMark
deriving DecidableEq, Repr

/-- The words for a cause. -/
def Cause.message : Cause → Text
  | expectingValue => "Expecting value"
  | expectingName => "Expecting property name enclosed in double quotes"
  | expectingColon => "Expecting ':' delimiter"
  | expectingComma => "Expecting ',' delimiter"
  | unterminatedString => "Unterminated string starting at"
  | controlCharacter => "Invalid control character at"
  | badEscape => "Invalid \\escape"
  | badUnicodeEscape => "Invalid \\uXXXX escape"
  | extraData => "Extra data"
  | byteOrderMark => "Unexpected UTF-8 BOM (decode using utf-8-sig)"

/-- A fault met while reading. -/
inductive Fault where
  /-- The text is malformed where `remaining` characters were left. -/
  | malformed (cause : Cause) (remaining : Nat)
  /-- A whole number has too many digits. -/
  | tooManyDigits (e : TooManyDigits)

/-- Why a text is refused, with the place as line, column and character count. -/
inductive Error where
  | malformed (cause : Cause) (line column offset : Nat)
  | tooManyDigits (e : TooManyDigits)
deriving DecidableEq, Repr

/-- The text of a complaint. -/
def Error.message : Error → Text
  | malformed cause line column offset =>
    cause.message ++ ": line " ++ toString line ++ " column " ++ toString column ++
      " (char " ++ toString offset ++ ")"
  | tooManyDigits e => e.message

/-- Refuses the text where `rest` remains. -/
def refuse {α : Type} (cause : Cause) (rest : List CodePoint) : Except Fault α :=
  .error (.malformed cause rest.length)

/-! ## §2 White space and strings -/

/-- White space between tokens. -/
def isSpace (c : CodePoint) : Bool :=
  c == ' ' || c == '\t' || c == '\n' || c == '\r'

/-- Skips white space. -/
def skipSpace (s : List CodePoint) : List CodePoint :=
  s.dropWhile isSpace

/-- Value of a hexadecimal digit of either case. -/
def hexValue? (c : CodePoint) : Option Nat :=
  if '0' ≤ c ∧ c ≤ '9' then some (c.toNat - 48)
  else if 'a' ≤ c ∧ c ≤ 'f' then some (c.toNat - 87)
  else if 'A' ≤ c ∧ c ≤ 'F' then some (c.toNat - 55)
  else none

/-- The number written by four hexadecimal digits. -/
def unit? (a b c d : CodePoint) : Option Nat := do
  return (← hexValue? a) * 4096 + (← hexValue? b) * 256 + (← hexValue? c) * 16 + (← hexValue? d)

/-- The character of a short escape. -/
def shortEscape? (c : CodePoint) : Option CodePoint :=
  match c with
  | '"' => some '"'
  | '\\' => some '\\'
  | '/' => some '/'
  | 'b' => some '\x08'
  | 'f' => some '\x0c'
  | 'n' => some '\n'
  | 'r' => some '\r'
  | 't' => some '\t'
  | _ => none

/-- A leading half of a surrogate pair. -/
def isHighHalf (n : Nat) : Bool := 0xd800 ≤ n && n < 0xdc00

/-- A trailing half of a surrogate pair. -/
def isLowHalf (n : Nat) : Bool := 0xdc00 ≤ n && n < 0xe000

/-- The character of a surrogate pair. -/
def pairChar (high low : Nat) : CodePoint :=
  CodePoint.ofNat (0x10000 + (high - 0xd800) * 1024 + (low - 0xdc00))

/-- The second half of a pair, given what follows the four digits of the first half: absent, or its
unit if its digits are good. It needs a character after it. -/
def secondHalf? : List CodePoint → Option (Option Nat)
  | '\\' :: 'u' :: a :: b :: c :: d :: _ :: _ => some (unit? a b c d)
  | _ => none

/-- Reads an escape after its backslash: the character and how many characters it takes. A fault is
given with its distance from the backslash. The four digits of a unit need a character after
them. -/
def readEscape : List CodePoint → Except (Cause × Nat) (CodePoint × Nat)
  | 'u' :: a :: b :: c :: d :: e :: rest =>
    match unit? a b c d with
    | none => .error (.badUnicodeEscape, 1)
    | some high =>
      if isHighHalf high then
        match secondHalf? (e :: rest) with
        | none => .ok (CodePoint.ofNat high, 5)
        | some none => .error (.badUnicodeEscape, 7)
        | some (some low) =>
          if isLowHalf low then .ok (pairChar high low, 11) else .ok (CodePoint.ofNat high, 5)
      else .ok (CodePoint.ofNat high, 5)
  | 'u' :: _ => .error (.badUnicodeEscape, 1)
  | c :: _ =>
    match shortEscape? c with
    | some e => .ok (e, 1)
    | none => .error (.badEscape, 0)
  | [] => .error (.badEscape, 0)

/-- Reads a string after its opening quote, which had `opened` characters from itself on: `skip`
characters belong to an escape that is already read, and `acc` holds what is read in reverse. -/
def readString (opened : Nat) : Nat → List CodePoint → List CodePoint →
    Except Fault (List CodePoint × List CodePoint)
  | _, [], _ => .error (.malformed .unterminatedString opened)
  | skip + 1, _ :: rest, acc => readString opened skip rest acc
  | 0, c :: rest, acc =>
    if c = '"' then .ok (acc.reverse, rest)
    else if c = '\\' then
      if rest.isEmpty then .error (.malformed .unterminatedString opened)
      else
        match readEscape rest with
        | .ok (e, taken) => readString opened taken rest (e :: acc)
        | .error (cause, distance) => .error (.malformed cause (rest.length + 1 - distance))
    else if c.toNat < 32 then refuse .controlCharacter (c :: rest)
    else readString opened 0 rest (c :: acc)

/-! ## §3 Numbers -/

/-- An ASCII digit. -/
def isDigit (c : CodePoint) : Bool := '0' ≤ c && c ≤ '9'

/-- The digits at the front and what follows them. -/
def spanDigits (s : List CodePoint) : List CodePoint × List CodePoint :=
  (s.takeWhile isDigit, s.dropWhile isDigit)

/-- The fraction after a whole part: a point needs a digit after it. -/
def readFraction : List CodePoint → List CodePoint × List CodePoint
  | '.' :: c :: rest => if isDigit c then spanDigits (c :: rest) else ([], '.' :: c :: rest)
  | s => ([], s)

/-- The exponent after a number, if digits follow its mark and sign. -/
def readExponent (s : List CodePoint) : Option Int × List CodePoint :=
  match s with
  | mark :: rest =>
    if mark = 'e' ∨ mark = 'E' then
      let (sign, digits) : Int × List CodePoint :=
        match rest with
        | '-' :: more => (-1, more)
        | '+' :: more => (1, more)
        | _ => (1, rest)
      match spanDigits digits with
      | ([], _) => (none, s)
      | (power, more) => (some (sign * Text.digitsValue power), more)
    else (none, s)
  | [] => (none, s)

/-- The double nearest to `digits · 10 ^ power`; powers beyond the range need no arithmetic. -/
def nearestDouble (digits : List CodePoint) (power : Int) : Float :=
  let n := Text.digitsValue digits
  let magnitude := power + (decimalLength n : Int)
  if n = 0 ∨ magnitude < -400 then 0.0
  else if magnitude > 400 then 1.0 / 0.0
  else if power < 0 then Float.ofScientific n true power.natAbs
  else Float.ofScientific n false power.natAbs
where
  /-- How many decimal digits a number has. -/
  decimalLength (n : Nat) : Nat := (Text.decimal n).length

/-- Reads a number: a sign, a whole part without needless zeros, then a fraction and an exponent,
either of which makes it a fraction. -/
def readNumber (s : List CodePoint) : Except Fault (Value × List CodePoint) :=
  let (negative, body) : Bool × List CodePoint :=
    match s with
    | '-' :: rest => (true, rest)
    | _ => (false, s)
  let (whole, rest) : List CodePoint × List CodePoint :=
    match body with
    | '0' :: more => (['0'], more)
    | _ => spanDigits body
  if whole.isEmpty then refuse .expectingValue s
  else
    let (fraction, rest) := readFraction rest
    let (power, rest) := readExponent rest
    if fraction.isEmpty ∧ power.isNone then
      match readNat whole with
      | .error e => .error (.tooManyDigits e)
      | .ok n => .ok (.int (if negative then -(n : Int) else n), rest)
    else
      let x := nearestDouble (whole ++ fraction) (power.getD 0 - fraction.length)
      .ok (.fraction (if negative then -x else x), rest)

/-! ## §4 Values -/

mutual

/-- Reads one value at the front of the text. -/
def readValue : Nat → List CodePoint → Except Fault (Value × List CodePoint)
  | 0, s => refuse .expectingValue s
  | fuel + 1, s =>
    match s with
    | '"' :: rest => do
      let (text, rest) ← readString s.length 0 rest []
      return (.str (Text.ofList text), rest)
    | '\x7b' :: rest =>
      match skipSpace rest with
      | '\x7d' :: rest => .ok (.obj [], rest)
      | rest => readMembers fuel rest []
    | '[' :: rest =>
      match skipSpace rest with
      | ']' :: rest => .ok (.arr [], rest)
      | rest => readItems fuel rest []
    | 'n' :: 'u' :: 'l' :: 'l' :: rest => .ok (.null, rest)
    | 't' :: 'r' :: 'u' :: 'e' :: rest => .ok (.bool true, rest)
    | 'f' :: 'a' :: 'l' :: 's' :: 'e' :: rest => .ok (.bool false, rest)
    | 'N' :: 'a' :: 'N' :: rest => .ok (.fraction (0.0 / 0.0), rest)
    | 'I' :: 'n' :: 'f' :: 'i' :: 'n' :: 'i' :: 't' :: 'y' :: rest =>
      .ok (.fraction (1.0 / 0.0), rest)
    | '-' :: 'I' :: 'n' :: 'f' :: 'i' :: 'n' :: 'i' :: 't' :: 'y' :: rest =>
      .ok (.fraction (-1.0 / 0.0), rest)
    | _ => readNumber s

/-- Reads the members of an object that is not empty, with those read so far. -/
def readMembers : Nat → List CodePoint → Members → Except Fault (Value × List CodePoint)
  | 0, s, _ => refuse .expectingName s
  | fuel + 1, s, members =>
    match s with
    | '"' :: rest => do
      let (key, rest) ← readString s.length 0 rest []
      match skipSpace rest with
      | ':' :: rest =>
        let (value, rest) ← readValue fuel (skipSpace rest)
        let members := Value.put members (Text.ofList key) value
        match skipSpace rest with
        | '\x7d' :: rest => .ok (.obj members, rest)
        | ',' :: rest => readMembers fuel (skipSpace rest) members
        | rest => refuse .expectingComma rest
      | rest => refuse .expectingColon rest
    | _ => refuse .expectingName s

/-- Reads the items of an array that is not empty, with those read so far in reverse. -/
def readItems : Nat → List CodePoint → List Value → Except Fault (Value × List CodePoint)
  | 0, s, _ => refuse .expectingValue s
  | fuel + 1, s, items => do
    let (item, rest) ← readValue fuel s
    match skipSpace rest with
    | ']' :: rest => .ok (.arr (item :: items).reverse, rest)
    | ',' :: rest => readItems fuel (skipSpace rest) (item :: items)
    | rest => refuse .expectingComma rest

end

/-! ## §5 Texts -/

/-- Reads a text that holds one value between white space. Two calls nest for each character at
most, so twice its length is fuel enough. -/
def readChars (s : List CodePoint) : Except Fault Value :=
  match s with
  | '\ufeff' :: _ => refuse .byteOrderMark s
  | _ => do
    let (value, rest) ← readValue (2 * s.length + 2) (skipSpace s)
    match skipSpace rest with
    | [] => .ok value
    | rest => refuse .extraData rest

/-- Line and column of an offset, both counted from one. -/
def position (s : List CodePoint) (offset : Nat) : Nat × Nat :=
  let before := s.take offset
  (before.count (.char '\n') + 1, (before.reverse.takeWhile (· != ('\n' : CodePoint))).length + 1)

/-- Places a fault in the text it was met in. -/
def Fault.locate (s : List CodePoint) : Fault → Error
  | malformed cause remaining =>
    let offset := s.length - remaining
    let (line, column) := position s offset
    .malformed cause line column offset
  | tooManyDigits e => .tooManyDigits e

/-- Reads a JSON text. -/
def read (text : Text) : Except Error Value :=
  (readChars text.toList).mapError (Fault.locate text.toList)

end LogViewer.Json
