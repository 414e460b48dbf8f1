import LogViewer.Text.Basic
import LogViewer.Text.Blank

/-!
# Decimal digits and whole numbers

Every decimal digit of Unicode counts as a digit: the table holds the zero of each block of ten.
Reading and writing whole numbers is limited to `digitLimit` digits; leading zeros count.

## Main definitions

- `digitValue?`, `isDecimal`: the decimal digits
- `readNat`: the number written by digits, or the number of digits when there are too many
- `writeNat`: the decimal text of a number under the same limit
- `readInt`: a number as a person may write it, with sign, white space and underscores
- `grouped`: decimal text with a comma between groups of three digits
-/

namespace LogViewer.Text

/-! ## §1 Digits -/

/-- The zeros of the blocks of ten decimal digits of Unicode 14. -/
def digitZeros : List Nat := [
    0x30, 0x660, 0x6f0, 0x7c0, 0x966, 0x9e6, 0xa66, 0xae6, 0xb66, 0xbe6, 0xc66, 0xce6, 0xd66,
    0xde6, 0xe50, 0xed0, 0xf20, 0x1040, 0x1090, 0x17e0, 0x1810, 0x1946, 0x19d0, 0x1a80, 0x1a90,
    0x1b50, 0x1bb0, 0x1c40, 0x1c50, 0xa620, 0xa8d0, 0xa900, 0xa9d0, 0xa9f0, 0xaa50, 0xabf0, 0xff10,
    0x104a0, 0x10d30, 0x11066, 0x110f0, 0x11136, 0x111d0, 0x112f0, 0x11450, 0x114d0, 0x11650,
    0x116c0, 0x11730, 0x118e0, 0x11950, 0x11c50, 0x11d50, 0x11da0, 0x16a60, 0x16ac0, 0x16b50,
    0x1d7ce, 0x1d7d8, 0x1d7e2, 0x1d7ec, 0x1d7f6, 0x1e140, 0x1e2f0, 0x1e950, 0x1fbf0]

/-- Value of a decimal digit. -/
def digitValue? (code : Nat) : Option Nat :=
  (digitZeros.find? fun first => first ≤ code && code < first + 10).map (code - ·)

/-- A decimal digit of any script. -/
def isDecimalCode (code : Nat) : Bool :=
  digitZeros.any fun first => first ≤ code && code < first + 10

/-- A decimal digit of any script. -/
def isDecimal (c : CodePoint) : Bool :=
  isDecimalCode c.toNat

/-! ## §2 Whole numbers -/

/-- The most digits that a whole number may have where it is read or written as text. -/
def digitLimit : Nat := 4300

/-- A number with more digits than `digitLimit`. -/
structure TooManyDigits where
  /-- How many digits there are. -/
  count : Nat
deriving DecidableEq, Repr

/-- The text of the complaint. -/
def TooManyDigits.message (e : TooManyDigits) : Text :=
  "Exceeds the limit (" ++ toString digitLimit ++ " digits) for integer string conversion: " ++
    "value has " ++ toString e.count ++ " digits; " ++
    "use sys.set_int_max_str_digits() to increase the limit"

/-- The text of the complaint about a number that cannot be written. -/
def TooManyDigits.writingMessage (_ : TooManyDigits) : Text :=
  "Exceeds the limit (" ++ toString digitLimit ++ " digits) for integer string conversion; " ++
    "use sys.set_int_max_str_digits() to increase the limit"

/-- Value of a row of digits; a character that is no digit counts as zero. -/
def digitsValue (digits : List CodePoint) : Nat :=
  digits.foldl (fun n c => n * 10 + (digitValue? c.toNat).getD 0) 0

/-- Reads a row of digits. -/
def readNat (digits : List CodePoint) : Except TooManyDigits Nat :=
  if digits.length ≤ digitLimit then .ok (digitsValue digits) else .error ⟨digits.length⟩

/-- The decimal digits of a number, the highest first. -/
def decimal (n : Nat) : List CodePoint :=
  (Nat.toDigits 10 n).map .char

theorem toList_toString (n : Nat) : (Text.toList (toString n)) = decimal n := by
  rw [toList_ofString, Nat.toString_eq_ofList_toDigits, String.toList_ofList]
  rfl

/-- Writes a number. -/
def writeNat (n : Nat) : Except TooManyDigits (List CodePoint) :=
  let digits := decimal n
  if digits.length ≤ digitLimit then .ok digits else .error ⟨digits.length⟩

/-- Writes a whole number with its sign; the sign is no digit. -/
def writeInt (n : Int) : Except TooManyDigits (List CodePoint) :=
  match n with
  | .ofNat m => writeNat m
  | .negSucc m => ('-' :: ·) <$> writeNat (m + 1)

/-! ## §3 Numbers as written by hand -/

/-- Why a text is no whole number. -/
inductive IntFault where
  | notANumber
  | tooManyDigits (e : TooManyDigits)
deriving DecidableEq, Repr

/-- White space around a number: the ASCII blanks, and beyond ASCII all white space. -/
def surroundsNumber (c : CodePoint) : Bool :=
  if c.toNat < 128 then isAsciiBlankCode c.toNat else isBlank c

/-- Digits that may have single underscores between them, without the underscores. -/
def plainDigits? : List CodePoint → Option (List CodePoint)
  | [] => none
  | [c] => if isDecimal c then some [c] else none
  | c :: '_' :: rest => if isDecimal c then (plainDigits? rest).map (c :: ·) else none
  | c :: rest => if isDecimal c then (plainDigits? rest).map (c :: ·) else none

/-- Reads a whole number: white space around it, a sign, digits of any script with single
underscores between them. -/
def readInt (s : List CodePoint) : Except IntFault Int :=
  let inner := ((s.dropWhile surroundsNumber).reverse.dropWhile surroundsNumber).reverse
  let (negative, body) : Bool × List CodePoint :=
    match inner with
    | '-' :: rest => (true, rest)
    | '+' :: rest => (false, rest)
    | _ => (false, inner)
  match plainDigits? body with
  | none => .error .notANumber
  | some digits =>
    match readNat digits with
    | .error e => .error (.tooManyDigits e)
    | .ok n => .ok (if negative then -(n : Int) else n)

/-! ## §4 Grouped digits -/

/-- Puts a comma before every third digit of a row given from the lowest digit on. -/
def groupFromLow : List CodePoint → List CodePoint
  | a :: b :: c :: d :: rest => a :: b :: c :: ',' :: groupFromLow (d :: rest)
  | few => few

/-- Decimal text of a number with commas between groups of three digits. -/
def grouped (n : Nat) : Text :=
  Text.ofList (groupFromLow (decimal n).reverse).reverse

/-- Grouped decimal text of a whole number with its sign. -/
def groupedInt (n : Int) : Text :=
  match n with
  | .ofNat m => grouped m
  | .negSucc m => "-" ++ grouped (m + 1)

end LogViewer.Text
