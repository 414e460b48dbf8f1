import LogViewer.Text.Quoted

/-!
# UTF-8

Files hold bytes. They are read strictly, where the first fault is reported, or leniently, where
every faulty piece reads as the replacement character. A faulty piece is the longest beginning of a
sequence that could still have become a character, and at least one byte.

## Main definitions

- `scan`: the character or the fault at the beginning of some bytes
- `Fault` with `Fault.message`: why bytes are no text
- `decode`: strict reading
- `decodeReplacing`: lenient reading
- `Unencodable` with `Unencodable.message`: why a text has no bytes
- `encode`: the bytes of a text
-/

namespace LogViewer.Text.Utf8

/-! ## §1 Single characters -/

/-- What is wrong with a piece of bytes. -/
inductive Cause where
  | start
  | continuation
  | ending
deriving DecidableEq, Repr

/-- The words for a cause. -/
def Cause.message : Cause → Text
  | start => "invalid start byte"
  | continuation => "invalid continuation byte"
  | ending => "unexpected end of data"

/-- What the first byte of a sequence tells: how many bytes follow, the bounds of the first of them,
and the leading bits of the character. -/
structure Lead where
  following : Nat
  low : UInt8
  high : UInt8
  bits : Nat

/-- Reads the first byte of a sequence. -/
def lead? (b : UInt8) : Option Lead :=
  if b < 0x80 then some ⟨0, 0x80, 0xbf, b.toNat⟩
  else if b < 0xc2 then none
  else if b < 0xe0 then some ⟨1, 0x80, 0xbf, b.toNat % 32⟩
  else if b = 0xe0 then some ⟨2, 0xa0, 0xbf, 0⟩
  else if b = 0xed then some ⟨2, 0x80, 0x9f, 13⟩
  else if b < 0xf0 then some ⟨2, 0x80, 0xbf, b.toNat % 16⟩
  else if b = 0xf0 then some ⟨3, 0x90, 0xbf, 0⟩
  else if b < 0xf4 then some ⟨3, 0x80, 0xbf, b.toNat % 8⟩
  else if b = 0xf4 then some ⟨3, 0x80, 0x8f, 4⟩
  else none

/-- Reads the bytes that follow, the first of them within bounds; gives the code point, or the fault
with the number of good bytes before it. -/
def following : Nat → UInt8 → UInt8 → Nat → Nat → List UInt8 → Except (Cause × Nat) Nat
  | 0, _, _, _, value, _ => .ok value
  | _ + 1, _, _, taken, _, [] => .error (.ending, taken)
  | n + 1, low, high, taken, value, b :: rest =>
    if low ≤ b && b ≤ high then
      following n 0x80 0xbf (taken + 1) (value * 64 + b.toNat % 64) rest
    else .error (.continuation, taken)

/-- Reads a sequence from its first byte and what comes after it. Gives the character, or the fault,
and how many of the bytes after the first belong to it. -/
def scan (b : UInt8) (rest : List UInt8) : Except Cause CodePoint × Nat :=
  match lead? b with
  | none => (.error .start, 0)
  | some lead =>
    match following lead.following lead.low lead.high 0 lead.bits rest with
    | .ok value => (.ok (CodePoint.ofNat value), lead.following)
    | .error (cause, taken) => (.error cause, taken)

/-! ## §2 Whole texts -/

/-- Why bytes are no text: the cause, the position of the faulty piece, and its bytes. -/
structure Fault where
  cause : Cause
  position : Nat
  first : UInt8
  more : Nat
deriving DecidableEq, Repr

/-- The text of the complaint. -/
def Fault.message (f : Fault) : Text :=
  if f.more = 0 then
    let byte := Text.ofList (hexDigits 2 f.first.toNat)
    "'utf-8' codec can't decode byte 0x" ++ byte ++ " in position " ++ toString f.position ++
      ": " ++ f.cause.message
  else
    "'utf-8' codec can't decode bytes in position " ++ toString f.position ++ "-" ++
      toString (f.position + f.more) ++ ": " ++ f.cause.message

/-- The first fault of some bytes that begin at a position. -/
def firstFault (position : Nat) : List UInt8 → Fault
  | [] => ⟨.ending, position, 0, 0⟩
  | b :: rest =>
    let (found, more) := scan b rest
    match found with
    | .ok _ => firstFault (position + 1 + more) (rest.drop more)
    | .error cause => ⟨cause, position, b, more⟩
termination_by bytes => bytes.length
decreasing_by simp only [List.length_drop, List.length_cons]; omega

/-- Strict reading. -/
def decode (bytes : ByteArray) : Except Fault Text :=
  match String.fromUTF8? bytes with
  | some text => .ok text
  | none => .error (firstFault 0 bytes.toList)

/-- What a faulty piece reads as. -/
def replacement : CodePoint := CodePoint.ofNat 0xfffd

/-- Lenient reading of a list of bytes. -/
def replacing : List UInt8 → List CodePoint
  | [] => []
  | b :: rest =>
    let (found, more) := scan b rest
    let c := match found with
      | .ok c => c
      | .error _ => replacement
    c :: replacing (rest.drop more)
termination_by bytes => bytes.length
decreasing_by simp only [List.length_drop, List.length_cons]; omega

/-- Lenient reading. -/
def decodeReplacing (bytes : ByteArray) : Text :=
  Text.ofList (replacing bytes.toList)

/-! ## §3 Writing -/

/-- Why a text has no bytes: it holds surrogates. The position and the number of the first one, and
how many more follow it directly. -/
structure Unencodable where
  position : Nat
  code : Nat
  more : Nat
deriving DecidableEq, Repr

/-- The text of the complaint. -/
def Unencodable.message (e : Unencodable) : Text :=
  if e.more = 0 then
    "'utf-8' codec can't encode character '\\u" ++ .ofList (hexDigits 4 e.code) ++
      "' in position " ++ toString e.position ++ ": surrogates not allowed"
  else
    "'utf-8' codec can't encode characters in position " ++ toString e.position ++ "-" ++
      toString (e.position + e.more) ++ ": surrogates not allowed"

/-- Whether a surrogate stands for a byte in the name of a file: for one from 80 on. -/
def standsForByte (c : CodePoint) : Bool := 0xdc80 ≤ c.toNat && c.toNat ≤ 0xdcff

/-- The first surrogate of some code points that begin at a position, apart from those that pass. -/
def firstRefused? (passes : CodePoint → Bool) (position : Nat) : List CodePoint → Option Unencodable
  | [] => none
  | c :: rest =>
    if c.isSurrogate && !passes c then
      some ⟨position, c.toNat, (rest.takeWhile CodePoint.isSurrogate).length⟩
    else firstRefused? passes (position + 1) rest

/-- Why a text cannot be the name of a file, if it cannot. -/
def nameFault? (text : Text) : Option Unencodable := firstRefused? standsForByte 0 text.toList

/-- The bytes of a text. -/
def encode (text : Text) : Except Unencodable ByteArray :=
  match firstRefused? (fun _ => false) 0 text.toList with
  | none => .ok text.string.toUTF8
  | some e => .error e

end LogViewer.Text.Utf8
