import LogViewer.Text.Basic

/-!
# Pattern trees

The tree of a pattern is generic in its leaves: the reader produces trees over `Atom`, whose
meaning depends on the flags in force, and resolving the flags produces trees over `Step`
(`LogViewer.Pattern.Step`).

## Main definitions

- `Flags`: the inline flags, and `Flags.within` for the flags inside a group
- `Atom`: literals, sets, anchors and back references as they are written
- `Tree`: sequences, alternatives, groups, repetitions and look-arounds over any leaves
- `Tree.width`: the least and the greatest number of characters that a tree can take
-/

namespace LogViewer.Pattern

/-! ## §1 Flags -/

/-- The flags of a pattern or of a part of it. -/
structure Flags where
  ignoreCase : Bool
  multiline : Bool
  dotAll : Bool
  verbose : Bool
  ascii : Bool
  unicode : Bool
  template : Bool
deriving DecidableEq, Repr

namespace Flags

/-- No flag. -/
def plain : Flags := ⟨false, false, false, false, false, false, false⟩

/-- The flags of either. -/
def union (a b : Flags) : Flags :=
  ⟨a.ignoreCase || b.ignoreCase, a.multiline || b.multiline, a.dotAll || b.dotAll,
    a.verbose || b.verbose, a.ascii || b.ascii, a.unicode || b.unicode, a.template || b.template⟩

/-- The flags of the first that the second has not. -/
def without (a b : Flags) : Flags :=
  ⟨a.ignoreCase && !b.ignoreCase, a.multiline && !b.multiline, a.dotAll && !b.dotAll,
    a.verbose && !b.verbose, a.ascii && !b.ascii, a.unicode && !b.unicode,
    a.template && !b.template⟩

/-- Whether two sets of flags share one. -/
def meets (a b : Flags) : Bool :=
  (a.ignoreCase && b.ignoreCase) || (a.multiline && b.multiline) || (a.dotAll && b.dotAll)
    || (a.verbose && b.verbose) || (a.ascii && b.ascii) || (a.unicode && b.unicode)
    || (a.template && b.template)

/-- The flags inside a group that turns some on and some off. The two flags for the kind of
character classes exclude each other, so turning one on drops the other. -/
def within (outer on off : Flags) : Flags :=
  let base := if on.ascii || on.unicode then { outer with ascii := false, unicode := false } else outer
  (base.union on).without off

/-- The flag of a letter. -/
def ofLetter? : CodePoint → Option Flags
  | 'i' => some { plain with ignoreCase := true }
  | 'm' => some { plain with multiline := true }
  | 's' => some { plain with dotAll := true }
  | 'x' => some { plain with verbose := true }
  | 'a' => some { plain with ascii := true }
  | 'u' => some { plain with unicode := true }
  | 't' => some { plain with template := true }
  | _ => none

end Flags

/-! ## §2 Atoms -/

/-- The least and the greatest number of characters that a part of a pattern can take. -/
structure Width where
  least : Nat
  greatest : Nat
deriving DecidableEq, Repr

/-- Widths are counted up to this bound. -/
def widthBound : Nat := Nat.pow 2 64

/-- Keeps a width within the bound. -/
def Width.capped (least greatest : Nat) : Width :=
  ⟨min least widthBound, min greatest widthBound⟩

/-- A kind of character. -/
inductive Kind where
  | digit
  | space
  | word
deriving DecidableEq, Repr

/-- A position test as it is written. -/
inductive Anchor where
  /-- Start of the text, or of a line under the flag for lines. -/
  | caret
  /-- End of the text or before its final line feed, or end of a line. -/
  | dollar
  | textStart
  | textEnd
  | boundary (negated : Bool)
deriving DecidableEq, Repr

/-- A member of a set. Characters are given by their code points. -/
inductive Member where
  | code (n : Nat)
  | range (first last : Nat)
  | kind (k : Kind) (negated : Bool)
deriving DecidableEq, Repr

/-- A leaf of a pattern as it is written. -/
inductive Atom where
  | literal (code : Nat)
  | notLiteral (code : Nat)
  | set (negated : Bool) (members : List Member)
  | any
  | anchor (a : Anchor)
  /-- The text of a group, whose width is known when the reference is read. -/
  | backref (group : Nat) (width : Width)
deriving DecidableEq, Repr

/-! ## §3 Trees -/

/-- How a repetition chooses its number of rounds. -/
inductive Mode where
  | greedy
  | lazy
  | possessive
deriving DecidableEq, Repr

/-- A pattern tree over leaves `α`. -/
inductive Tree (α : Type) where
  | empty
  | leaf (a : α)
  | seq (first second : Tree α)
  | alt (first second : Tree α)
  /-- A group with its number if it captures, and the flags it turns on and off. -/
  | group (index : Option Nat) (on off : Flags) (body : Tree α)
  | atomic (body : Tree α)
  /-- A repetition; without a greatest number it is unbounded. -/
  | iterate (mode : Mode) (least : Nat) (greatest : Option Nat) (body : Tree α)
  /-- A look-around; looking behind needs the width of the body. -/
  | look (behind : Option Width) (negated : Bool) (body : Tree α)
  | conditional (group : Nat) (yes no : Tree α)
deriving DecidableEq, Repr

namespace Tree

variable {α β : Type}

/-- The sequence of some trees. -/
def ofList : List (Tree α) → Tree α
  | [] => empty
  | t :: rest => seq t (ofList rest)

/-- The items of a sequence. -/
def items : Tree α → List (Tree α)
  | empty => []
  | seq t rest => t :: items rest
  | t => [t]

/-- The alternatives of at least one tree, tried in order. -/
def choices : Tree α → List (Tree α) → Tree α
  | t, [] => t
  | t, u :: rest => alt t (choices u rest)

end Tree

/-- Width of a leaf: characters and sets take one character, anchors none. -/
def Atom.width : Atom → Width
  | anchor _ => ⟨0, 0⟩
  | backref _ width => width
  | _ => ⟨1, 1⟩

/-- Width of a tree. -/
def Tree.width : Tree Atom → Width
  | empty => ⟨0, 0⟩
  | leaf a => a.width
  | seq t u => .capped (t.width.least + u.width.least) (t.width.greatest + u.width.greatest)
  | alt t u => ⟨min t.width.least u.width.least, max t.width.greatest u.width.greatest⟩
  | group _ _ _ body => body.width
  | atomic body => body.width
  | iterate _ least greatest body =>
    let w := body.width
    .capped (w.least * least) (match greatest with
      | some n => w.greatest * n
      | none => if w.greatest = 0 then 0 else widthBound)
  | look _ _ _ => ⟨0, 0⟩
  | conditional _ yes no =>
    ⟨min yes.width.least no.width.least, max yes.width.greatest no.width.greatest⟩

end LogViewer.Pattern
