import LogViewer.Pattern.Error
import LogViewer.Pattern.Tree
import LogViewer.Text.Blank
import LogViewer.Text.Case
import LogViewer.Text.Decimal
import LogViewer.Text.Letter

/-!
# Leaves with their flags resolved

A leaf of a pattern means one thing or another under the flags in force. Resolving turns atoms into
steps: tests of one character, tests of a position, and references to the text of a group. Folding
of case compares lower case; beyond ASCII, lower case letters with one upper case count as equal.

A set folds the character under test only when one of its members has a case. Members beyond the
basic plane are compared as they stand, a range there also with the upper case of the character.

## Main definitions

- `Fold`: the two ways to fold case
- `CharTest`, `CharTest.holds`: tests of one character
- `Place`, `Step`: positions and resolved leaves
- `Tree.resolve`: resolves a tree, refusing what its flags and widths do not allow
-/

namespace LogViewer.Pattern

open LogViewer.Text

/-! ## §1 Folding of case -/

/-- How the case of letters is ignored: within ASCII, or everywhere. -/
inductive Fold where
  | ascii
  | unicode
deriving DecidableEq, Repr

namespace Fold

/-- Lower case under a folding. -/
def lower : Fold → Nat → Nat
  | ascii, code => asciiLower code
  | unicode, code => lowerCode code

/-- Whether a code point has a case under a folding. -/
def cased : Fold → Nat → Bool
  | ascii, code => isAsciiCased code
  | unicode, code => isCased code

/-- The folded code points that are equal to a folded one. -/
def mates : Fold → Nat → List Nat
  | ascii, code => [code]
  | unicode, code => code :: upperMates code

/-- The code points with a given folded form. -/
def sources : Fold → Nat → List Nat
  | ascii, code =>
    if 97 ≤ code ∧ code ≤ 122 then [code, code - 32]
    else if 65 ≤ code ∧ code ≤ 90 then [] else [code]
  | unicode, code => lowerSources code

end Fold

/-! ## §2 Tests of one character -/

/-- Membership in a kind of character, within ASCII or everywhere. -/
def Kind.holds : Kind → (ascii : Bool) → Nat → Bool
  | digit, true, code => isAsciiDigit code
  | digit, false, code => isDecimalCode code
  | space, true, code => isAsciiBlankCode code
  | space, false, code => isBlankCode code
  | word, true, code => isAsciiWord code
  | word, false, code => isWord code

/-- A resolved member of a set. -/
inductive Part where
  /-- The code points from the first to the last. -/
  | exact (first last : Nat)
  /-- The folded forms of these code points. -/
  | folded (fold : Fold) (first last : Nat)
  /-- These code points, or those whose upper case is one of them. -/
  | orUpper (first last : Nat)
  | kind (k : Kind) (ascii negated : Bool)
deriving DecidableEq, Repr

/-- Whether a member of a set holds a code point. -/
def Part.holds : Part → Nat → Bool
  | exact first last, code => first ≤ code && code ≤ last
  | folded fold first last, code =>
    (fold.mates code).any fun mate =>
      (fold.sources mate).any fun source => first ≤ source && source ≤ last
  | orUpper first last, code =>
    (first ≤ code && code ≤ last) || (first ≤ upperCode code && upperCode code ≤ last)
  | kind k ascii negated, code => k.holds ascii code != negated

/-- A test of one character. -/
inductive CharTest where
  | anything
  | noLineFeed
  | code (negated : Bool) (n : Nat)
  /-- The folded character is one of these. -/
  | folded (negated : Bool) (fold : Fold) (codes : List Nat)
  /-- The character, folded if a folding is given, is in one of the parts. -/
  | set (negated : Bool) (fold : Option Fold) (parts : List Part)
deriving DecidableEq, Repr

/-- Whether a test holds of a code point. -/
def CharTest.holds : CharTest → Nat → Bool
  | anything, _ => true
  | noLineFeed, c => c != 10
  | code negated n, c => (c == n) != negated
  | folded negated fold codes, c => codes.contains (fold.lower c) != negated
  | set negated fold parts, c =>
    let c := match fold with
      | some fold => fold.lower c
      | none => c
    parts.any (·.holds c) != negated

/-! ## §3 Steps -/

/-- A position in the text. -/
inductive Place where
  | textStart
  | lineStart
  | textEnd
  /-- The end of the text or the position before its final line feed. -/
  | lastLineEnd
  | lineEnd
  /-- Between a word character and another one, with the kind of word characters. -/
  | boundary (ascii negated : Bool)
deriving DecidableEq, Repr

/-- A resolved leaf. -/
inductive Step where
  | char (test : CharTest)
  | place (p : Place)
  /-- The text of a group, compared under a folding if one is given. -/
  | backref (group : Nat) (fold : Option Fold)
deriving DecidableEq, Repr

/-! ## §4 Resolving leaves -/

/-- The folding under some flags. -/
def Flags.fold? (flags : Flags) : Option Fold :=
  if flags.ignoreCase then some (if flags.ascii then .ascii else .unicode) else none

/-- The basic plane ends before this code point. -/
def planeEnd : Nat := 0x10000

/-- A test for one code point. -/
def literalTest (flags : Flags) (negated : Bool) (n : Nat) : CharTest :=
  match flags.fold? with
  | none => .code negated n
  | some fold =>
    if fold.cased n then .folded negated fold (fold.mates (fold.lower n)) else .code negated n

/-- A resolved member of a set, and whether it has a case. Without a folding none has. -/
def resolveMember (flags : Flags) (m : Member) : List Part × Bool :=
  match m, flags.fold? with
  | .kind k negated, _ => ([.kind k flags.ascii negated], false)
  | .code n, none => ([.exact n n], false)
  | .range first last, none => ([.exact first last], false)
  | .code n, some fold =>
    if fold.lower n < planeEnd then ([.folded fold n n], fold.cased n)
    else ([.exact n n], true)
  | .range first last, some fold =>
    if last < planeEnd then
      ([.folded fold first last],
        (List.range' first (last + 1 - first)).any fun n => fold.cased n)
    else ([.folded fold first (planeEnd - 1), .orUpper first last], true)

/-- A test for a set. -/
def setTest (flags : Flags) (negated : Bool) (members : List Member) : CharTest :=
  let resolved := members.map (resolveMember flags)
  let parts := resolved.flatMap (·.1)
  .set negated (if resolved.any (·.2) then flags.fold? else none) parts

/-- An anchor under some flags. -/
def resolveAnchor (flags : Flags) : Anchor → Place
  | .caret => if flags.multiline then .lineStart else .textStart
  | .dollar => if flags.multiline then .lineEnd else .lastLineEnd
  | .textStart => .textStart
  | .textEnd => .textEnd
  | .boundary negated => .boundary flags.ascii negated

/-- A leaf under some flags. -/
def Atom.resolve (flags : Flags) : Atom → Step
  | literal n => .char (literalTest flags false n)
  | notLiteral n => .char (literalTest flags true n)
  | set negated members => .char (setTest flags negated members)
  | any => .char (if flags.dotAll then .anything else .noLineFeed)
  | anchor a => .place (resolveAnchor flags a)
  | backref group _ => .backref group flags.fold?

/-! ## §5 Resolving trees -/

/-- The name of a kind of repetition in the complaint about templates. -/
def Mode.operator : Mode → Text
  | greedy => "MAX_REPEAT"
  | lazy => "MIN_REPEAT"
  | possessive => "POSSESSIVE_REPEAT"

/-- Looking behind is limited to widths below this bound. -/
def lookLimit : Nat := Nat.pow 2 32

/-- Resolves a tree under some flags. Looking behind needs one width that is not too large. -/
def Tree.resolve (flags : Flags) : Tree Atom → Except Error (Tree Step)
  | empty => return .empty
  | leaf a => return .leaf (a.resolve flags)
  | seq t u => return .seq (← t.resolve flags) (← u.resolve flags)
  | alt t u => return .alt (← t.resolve flags) (← u.resolve flags)
  | group index on off body =>
    return .group index on off (← body.resolve (flags.within on off))
  | atomic body => return .atomic (← body.resolve flags)
  | iterate mode least greatest body => do
    if flags.template then throw (.grammar (.templateOperator mode.operator) none)
    return .iterate mode least greatest (← body.resolve flags)
  | look behind negated body => do
    match behind with
    | none => pure ()
    | some width =>
      if lookLimit ≤ width.least then throw (.grammar .lookbehindTooWide none)
      if width.least ≠ width.greatest then throw (.grammar .variableLookbehind none)
    return .look behind negated (← body.resolve flags)
  | conditional g yes no =>
    return .conditional g (← yes.resolve flags) (← no.resolve flags)

end LogViewer.Pattern
