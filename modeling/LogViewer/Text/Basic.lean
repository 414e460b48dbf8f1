/-!
# Texts

A text is a row of code points. Nearly every code point is a character. The surrogates are none:
they have a number but no bytes, so a text that holds one cannot be written to a file. They come
into a text where an escape names one, or where bytes that are no text are read one by one.

## Main definitions

- `CodePoint`: a character or a surrogate, with its number `CodePoint.toNat`
- `Text`: a row of code points; every string is one
- `Text.length`, `Text.isEmpty`, `Text.contains`, `Text.intercalate`, `Text.join`
-/

namespace LogViewer

/-! ## §1 Code points -/

/-- A character or a surrogate. -/
inductive CodePoint where
  | char (c : Char)
  | surrogate (n : Fin 2048)
deriving DecidableEq, Repr

namespace CodePoint

instance : Coe Char CodePoint := ⟨char⟩

/-- The first of the surrogates. -/
def firstSurrogate : Nat := 0xd800

/-- The number of a code point. -/
def toNat : CodePoint → Nat
  | char c => c.toNat
  | surrogate n => firstSurrogate + n

/-- The code point of a number; a number beyond the last code point is that of no character. -/
def ofNat (n : Nat) : CodePoint :=
  if h : firstSurrogate ≤ n ∧ n - firstSurrogate < 2048 then .surrogate ⟨n - firstSurrogate, h.2⟩
  else .char (Char.ofNat n)

instance : LE CodePoint := ⟨fun a b => a.toNat ≤ b.toNat⟩

instance (a b : CodePoint) : Decidable (a ≤ b) := inferInstanceAs (Decidable (a.toNat ≤ b.toNat))

/-- The character, if it is one. -/
def char? : CodePoint → Option Char
  | char c => some c
  | surrogate _ => none

/-- How many bytes it takes in the name of a file, where some surrogates stand for single bytes. -/
def byteSize : CodePoint → Nat
  | char c => c.utf8Size
  | surrogate _ => 1

/-- Whether it is a surrogate. -/
def isSurrogate : CodePoint → Bool
  | char _ => false
  | surrogate _ => true

@[simp] theorem toNat_char (c : Char) : (char c).toNat = c.toNat := rfl

theorem le_def {a b : CodePoint} : a ≤ b ↔ a.toNat ≤ b.toNat := Iff.rfl

/-- A character is no surrogate. -/
theorem toNat_char_cases (c : Char) :
    c.toNat < firstSurrogate ∨ firstSurrogate + 2048 ≤ c.toNat := by
  have hvalid : c.toNat < 0xd800 ∨ 0xdfff < c.toNat ∧ c.toNat < 0x110000 := c.valid
  unfold firstSurrogate
  omega

/-- Code points are told apart by their numbers. -/
theorem toNat_inj {a b : CodePoint} : a.toNat = b.toNat ↔ a = b := by
  refine ⟨fun h => ?_, congrArg toNat⟩
  -- No character has the number of a surrogate, so two equal numbers are of one kind.
  cases a with
  | char a =>
    have ha := toNat_char_cases a
    cases b with
    | char b => exact congrArg char (Char.toNat_inj.1 h)
    | surrogate n =>
      have hn : a.toNat = firstSurrogate + n := h
      omega
  | surrogate n =>
    cases b with
    | char b =>
      have hb := toNat_char_cases b
      have hn : firstSurrogate + n = b.toNat := h
      omega
    | surrogate k =>
      have hn : firstSurrogate + (n : Nat) = firstSurrogate + k := h
      exact congrArg surrogate (Fin.ext (by omega))

/-- The number of a code point leads back to it. -/
@[simp] theorem ofNat_toNat (c : CodePoint) : ofNat c.toNat = c := by
  unfold ofNat
  cases c with
  | char c =>
    have hc := toNat_char_cases c
    rw [dif_neg (by simp only [toNat_char]; omega), toNat_char, Char.ofNat_toNat]
  | surrogate n =>
    have hn : (surrogate n).toNat - firstSurrogate = n := Nat.add_sub_cancel_left ..
    rw [dif_pos ⟨Nat.le_add_right .., by rw [hn]; exact n.isLt⟩]
    exact congrArg surrogate (Fin.ext hn)

/-- An ASCII digit. -/
def isDigit : CodePoint → Bool
  | char c => c.isDigit
  | surrogate _ => false

/-- An ASCII letter. -/
def isAlpha : CodePoint → Bool
  | char c => c.isAlpha
  | surrogate _ => false

/-- An ASCII letter in upper case. -/
def isUpper : CodePoint → Bool
  | char c => c.isUpper
  | surrogate _ => false

/-- The lower case within ASCII. -/
def toLower : CodePoint → CodePoint
  | char c => char c.toLower
  | surrogate n => surrogate n

end CodePoint

/-! ## §2 Texts -/

/-- A row of code points. -/
@[ext] structure Text where
  ofList ::
  toList : List CodePoint
deriving DecidableEq, Repr

namespace Text

/-- The text of a string. -/
@[coe] def ofString (s : String) : Text := ofList (s.toList.map .char)

instance : Coe String Text := ⟨ofString⟩

instance : Append Text := ⟨fun a b => ofList (a.toList ++ b.toList)⟩

/-- The string of the characters of a text. -/
def string (t : Text) : String := String.ofList (t.toList.filterMap CodePoint.char?)

/-- How many code points there are. -/
def length (t : Text) : Nat := t.toList.length

/-- How many bytes it takes as the name of a file. -/
def byteSize (t : Text) : Nat := t.toList.foldr (·.byteSize + ·) 0

/-- Whether there are none. -/
def isEmpty (t : Text) : Bool := t.toList.isEmpty

/-- Whether a code point is among them. -/
def contains (t : Text) (c : CodePoint) : Bool := t.toList.contains c

/-- Texts with another one between them. -/
def intercalate (between : Text) (texts : List Text) : Text :=
  ofList (between.toList.intercalate (texts.map toList))

/-- Texts one after the other. -/
def join (texts : List Text) : Text :=
  ofList (texts.flatMap toList)

@[simp] theorem length_toList (t : Text) : t.toList.length = t.length := rfl

theorem toList_eq_nil_iff {t : Text} : t.toList = [] ↔ t = "" :=
  ⟨fun h => Text.ext h, fun h => congrArg toList h⟩

@[simp] theorem length_append (a b : Text) : (a ++ b).length = a.length + b.length :=
  List.length_append

theorem append_assoc (a b c : Text) : a ++ b ++ c = a ++ (b ++ c) :=
  Text.ext (List.append_assoc a.toList b.toList c.toList)

theorem isEmpty_eq_false_iff {t : Text} : t.isEmpty = false ↔ t ≠ "" := by
  rw [isEmpty, List.isEmpty_eq_false_iff, ne_eq, toList_eq_nil_iff]

@[simp] theorem toList_ofList (l : List CodePoint) : (ofList l).toList = l := rfl

@[simp] theorem ofList_toList (t : Text) : ofList t.toList = t := rfl

@[simp] theorem toList_append (a b : Text) : (a ++ b).toList = a.toList ++ b.toList := rfl

@[simp] theorem ofString_inj {s t : String} : ofString s = ofString t ↔ s = t := by
  refine ⟨fun h => String.toList_inj.1 ?_, congrArg ofString⟩
  have hlists : s.toList.map CodePoint.char = t.toList.map CodePoint.char := congrArg toList h
  exact (List.map_inj_right fun _ _ => CodePoint.char.inj).1 hlists

@[simp] theorem append_empty (t : Text) : t ++ "" = t := Text.ext (List.append_nil t.toList)

@[simp] theorem toList_intercalate (between : Text) (texts : List Text) :
    (intercalate between texts).toList = between.toList.intercalate (texts.map toList) := rfl

@[simp] theorem toList_join (texts : List Text) : (join texts).toList = texts.flatMap toList := rfl

@[simp] theorem toList_ofString (s : String) : (ofString s).toList = s.toList.map .char := rfl

end Text

end LogViewer
