/-!
# Shortest decimal text of a binary fraction

A double is shown by the fewest decimal digits that read back as the same double, and of those by
the nearest. The value is decoded into `m · 2 ^ q`; the reals that round to it form an interval
around it, ends included when `m` is even. For one digit, two digits and so on, the two grid points
beside the value are tested in exact arithmetic.

## Main definitions

- `Binary`: a positive value `m · 2 ^ q` with the interval that rounds to it
- `shortestDigits`: the digits and the place of the decimal point
- `writeDouble`: the text of a double
-/

namespace LogViewer.Text

/-! ## §1 The digits -/

/-- A positive value as fractions over one denominator: the value and the ends of the interval of
reals that round to it. -/
structure Binary where
  value : Nat
  low : Nat
  high : Nat
  denominator : Nat
  /-- Whether the ends of the interval round to the value. -/
  closed : Bool

namespace Binary

/-- The value `m · 2 ^ q`; `narrow` says that the gap below is half the gap above. -/
def ofScaled (m : Nat) (q : Int) (narrow : Bool) : Binary :=
  let scale := Nat.pow 2 q.toNat
  let below := if narrow then 1 else 2
  { value := 4 * m * scale
    low := (4 * m - below) * scale
    high := (4 * m + 2) * scale
    denominator := 4 * Nat.pow 2 (-q).toNat
    closed := m % 2 == 0 }

/-- Whether `n / d`, given over the denominator of the value as `n`, rounds to the value. -/
def admits (b : Binary) (n : Nat) : Bool :=
  if b.closed then b.low ≤ n && n ≤ b.high else b.low < n && n < b.high

/-- Smallest exponent with the value below `10 ^ exponent`, searched upward. -/
def exponentFrom (b : Binary) : Nat → Int → Int
  | 0, e => e
  | fuel + 1, e =>
    if b.value * Nat.pow 10 (-e).toNat < b.denominator * Nat.pow 10 e.toNat then e
    else exponentFrom b fuel (e + 1)

/-- The two grid points of `places` digits beside the value, as digits to test. -/
def candidate? (b : Binary) (exponent : Int) (places : Nat) : Option Nat :=
  let shift := exponent - places
  let up := Nat.pow 10 (-shift).toNat
  let down := Nat.pow 10 shift.toNat
  let scaled : Binary :=
    { value := b.value * up, low := b.low * up, high := b.high * up,
      denominator := b.denominator * down, closed := b.closed }
  let below := scaled.value / scaled.denominator
  let above := below + 1
  let gapBelow := scaled.value - below * scaled.denominator
  let gapAbove := above * scaled.denominator - scaled.value
  let fitsBelow := scaled.admits (below * scaled.denominator) && below != 0
  let fitsAbove := scaled.admits (above * scaled.denominator)
  if fitsBelow && (!fitsAbove || gapBelow < gapAbove || (gapBelow == gapAbove && below % 2 == 0)) then
    some below
  else if fitsAbove then some above
  else none

/-- The first number of places, from `places` on, with a grid point that rounds to the value. -/
def search (b : Binary) (exponent : Int) : Nat → Nat → Nat × Nat
  | 0, places => (b.value * Nat.pow 10 (places - exponent).toNat / b.denominator, places)
  | fuel + 1, places =>
    match b.candidate? exponent places with
    | some digits => (digits, places)
    | none => search b exponent fuel (places + 1)

end Binary

/-- Digits without trailing zeros. -/
def dropTrailingZeros (digits : List Char) : List Char :=
  (digits.reverse.dropWhile (· == '0')).reverse

/-- The shortest digits of a value and the exponent `e` of `0.d₁d₂… · 10 ^ e`. -/
def shortestDigits (b : Binary) : List Char × Int :=
  let exponent := b.exponentFrom 700 (-330)
  let (digits, places) := b.search exponent 17 1
  let text := Nat.toDigits 10 digits
  (dropTrailingZeros text, exponent + (text.length : Int) - places)

/-! ## §2 The text -/

/-- Positional text when the point falls from three zeros before the digits to the sixteenth place,
otherwise an exponent of at least two digits with its sign. -/
def placePoint (digits : List Char) (exponent : Int) : String :=
  if -4 < exponent ∧ exponent ≤ 16 then
    if exponent ≤ 0 then
      "0." ++ String.ofList (List.replicate (-exponent).toNat '0' ++ digits)
    else
      let whole := exponent.toNat
      if digits.length ≤ whole then
        String.ofList (digits ++ List.replicate (whole - digits.length) '0') ++ ".0"
      else
        String.ofList (digits.take whole) ++ "." ++ String.ofList (digits.drop whole)
  else
    let power := exponent - 1
    let sign := if power < 0 then "-" else "+"
    let powerDigits := Nat.toDigits 10 power.natAbs
    let powerText := if powerDigits.length < 2 then '0' :: powerDigits else powerDigits
    let head := String.ofList (digits.take 1)
    let tail := digits.drop 1
    let fraction := if tail.isEmpty then "" else "." ++ String.ofList tail
    head ++ fraction ++ "e" ++ sign ++ String.ofList powerText

/-- Text of a double: `nan`, `inf`, or the shortest digits that read back. -/
def writeDouble (x : Float) : String :=
  let bits : Nat := x.toBits.toNat
  let sign := if bits / Nat.pow 2 63 == 1 then "-" else ""
  let power : Nat := bits / Nat.pow 2 52 % Nat.pow 2 11
  let fraction : Nat := bits % Nat.pow 2 52
  if power = 2047 then
    if fraction = 0 then sign ++ "inf" else "nan"
  else if power = 0 ∧ fraction = 0 then sign ++ "0.0"
  else
    let b :=
      if power = 0 then Binary.ofScaled fraction (-1074) false
      else Binary.ofScaled (Nat.pow 2 52 + fraction) ((power : Int) - 1075) (fraction == 0 && power != 1)
    let (digits, exponent) := shortestDigits b
    sign ++ placePoint digits exponent

end LogViewer.Text
