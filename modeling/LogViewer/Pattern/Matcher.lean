import LogViewer.Pattern.Step

/-!
# Matching

A pattern is matched from a position by trying its parts in order of preference, each with the rest
of the pattern as a continuation: a part hands each way it can match to the continuation, and the
first way that the continuation accepts is the match. Atomic groups and look-arounds are matched on
their own and keep only their first way.

A repetition that has done its least number of rounds goes on only while rounds make progress, so
the length of the text bounds the number of rounds.

## Main definitions

- `Subject`, `Progress`: the text, and a position with the marks of the groups
- `Step.next?`: the effect of a leaf
- `greedyRounds`, `lazyRounds`, `possessiveRounds`: repetitions of any body
- `Tree.run`: matching with a continuation
- `Tree.matchesAt`, `Tree.occursIn`: matching from one position and searching
-/

namespace LogViewer.Pattern

/-! ## §1 Positions and marks -/

/-- The text under test. -/
abbrev Subject := Array CodePoint

/-- The marks of a group: where it started and ended last. -/
structure Marks where
  start : Option Nat
  stop : Option Nat
deriving DecidableEq, Repr

/-- A position in the text and the marks of the groups. -/
structure Progress where
  position : Nat
  groups : List (Nat × Marks)
deriving DecidableEq, Repr

namespace Progress

/-- The marks of a group. -/
def marks (p : Progress) (group : Nat) : Marks :=
  (p.groups.lookup group).getD ⟨none, none⟩

/-- The text of a group as start and end, if the group has matched and does not end before it
starts. -/
def span? (p : Progress) (group : Nat) : Option (Nat × Nat) :=
  match p.marks group with
  | ⟨some start, some stop⟩ => if start ≤ stop then some (start, stop) else none
  | _ => none

/-- Sets the marks of a group. -/
def setMarks (p : Progress) (group : Nat) (m : Marks) : Progress :=
  { p with groups := (group, m) :: p.groups.filter (·.1 != group) }

/-- Marks the start of a group here. -/
def opened (p : Progress) (group : Nat) : Progress :=
  p.setMarks group { p.marks group with start := some p.position }

/-- Marks the end of a group here. -/
def closed (p : Progress) (group : Nat) : Progress :=
  p.setMarks group { p.marks group with stop := some p.position }

end Progress

/-! ## §2 Leaves -/

/-- Whether a word character stands at a position. -/
def wordAt (text : Subject) (ascii : Bool) (i : Nat) : Bool :=
  match text[i]? with
  | some c => Kind.word.holds ascii c.toNat
  | none => false

/-- Whether a position test holds. A text without characters has no word boundaries and no other
positions between two characters. -/
def Place.holds (text : Subject) : Place → Nat → Bool
  | textStart, i => i == 0
  | lineStart, i => i == 0 || text[i - 1]? == some ('\n' : CodePoint)
  | textEnd, i => i == text.size
  | lastLineEnd, i => i == text.size || (i + 1 == text.size && text[i]? == some ('\n' : CodePoint))
  | lineEnd, i => i == text.size || text[i]? == some ('\n' : CodePoint)
  | boundary ascii negated, i =>
    if text.isEmpty then false
    else
      let before := i != 0 && wordAt text ascii (i - 1)
      (before != wordAt text ascii i) != negated

/-- Whether two characters are equal under a folding. -/
def sameChar (fold : Option Fold) (a b : CodePoint) : Bool :=
  match fold with
  | none => a == b
  | some fold => fold.lower a.toNat == fold.lower b.toNat

/-- The position after a copy of the characters from `start` on, `count` of them. -/
def copyFrom (text : Subject) (fold : Option Fold) : Nat → Nat → Nat → Option Nat
  | _, 0, i => some i
  | start, count + 1, i =>
    match text[start]?, text[i]? with
    | some a, some b => if sameChar fold b a then copyFrom text fold (start + 1) count (i + 1) else none
    | _, _ => none

/-- The effect of a leaf: where it leads, if it holds. -/
def Step.next? (text : Subject) : Step → Progress → Option Progress
  | char test, p =>
    match text[p.position]? with
    | some c => if test.holds c.toNat then some { p with position := p.position + 1 } else none
    | none => none
  | place pl, p => if pl.holds text p.position then some p else none
  | backref group fold, p =>
    match p.span? group with
    | none => none
    | some (start, stop) =>
      (copyFrom text fold start (stop - start) p.position).map fun i => { p with position := i }

/-! ## §3 Repetitions -/

/-- The rest of a pattern: it accepts a way to get here by giving the end of the match. -/
abbrev Continuation := Progress → Option Progress

/-- A part of a pattern: it tries its ways to match, in order, on a continuation. -/
abbrev Matcher := Progress → Continuation → Option Progress

/-- The first way to match a part on its own. -/
def Matcher.first (m : Matcher) (p : Progress) : Option Progress :=
  m p some

/-- Whether another round is allowed after `count` rounds. -/
def allows (greatest : Option Nat) (count : Nat) : Bool :=
  match greatest with
  | some n => count < n
  | none => true

/-- Rounds that prefer to go on. `last` is the position where the latest optional round began. -/
def greedyRounds (body : Matcher) (k : Continuation) (least : Nat) (greatest : Option Nat) :
    Nat → Nat → Option Nat → Progress → Option Progress
  | 0, _, _, p => k p
  | fuel + 1, count, last, p =>
    if count < least then
      body p fun p' => greedyRounds body k least greatest fuel (count + 1) last p'
    else if allows greatest count && last != some p.position then
      (body p fun p' =>
        greedyRounds body k least greatest fuel (count + 1) (some p.position) p').or (k p)
    else k p

/-- Rounds that prefer to stop. -/
def lazyRounds (body : Matcher) (k : Continuation) (least : Nat) (greatest : Option Nat) :
    Nat → Nat → Option Nat → Progress → Option Progress
  | 0, _, _, p => k p
  | fuel + 1, count, last, p =>
    if count < least then
      body p fun p' => lazyRounds body k least greatest fuel (count + 1) last p'
    else
      (k p).or
        (if allows greatest count && last != some p.position then
          body p fun p' => lazyRounds body k least greatest fuel (count + 1) (some p.position) p'
        else none)

/-- Rounds that are never given back: the progress after the last of them. -/
def possessiveRounds (body : Matcher) (least : Nat) (greatest : Option Nat) :
    Nat → Nat → Progress → Option Progress
  | 0, _, p => some p
  | fuel + 1, count, p =>
    if count < least then
      match body.first p with
      | some p' => possessiveRounds body least greatest fuel (count + 1) p'
      | none => none
    else if allows greatest count then
      match body.first p with
      | some p' =>
        if p'.position = p.position then some p'
        else possessiveRounds body least greatest fuel (count + 1) p'
      | none => some p
    else some p

/-- Enough fuel for any repetition: its least number of rounds and one more for each position. -/
def roundFuel (text : Subject) (least : Nat) : Nat :=
  least + text.size + 2

/-! ## §4 Trees -/

/-- Matches a tree with a continuation. -/
def Tree.run (text : Subject) : Tree Step → Matcher
  | empty, p, k => k p
  | leaf s, p, k => (s.next? text p).bind k
  | seq t u, p, k => t.run text p fun p' => u.run text p' k
  | alt t u, p, k => (t.run text p k).or (u.run text p k)
  | group none _ _ body, p, k => body.run text p k
  | group (some g) _ _ body, p, k => body.run text (p.opened g) fun p' => k (p'.closed g)
  | atomic body, p, k => (body.run text p some).bind k
  | iterate .greedy least greatest body, p, k =>
    greedyRounds (body.run text) k least greatest (roundFuel text least) 0 none p
  | iterate .lazy least greatest body, p, k =>
    lazyRounds (body.run text) k least greatest (roundFuel text least) 0 none p
  | iterate .possessive least greatest body, p, k =>
    (possessiveRounds (body.run text) least greatest (roundFuel text least) 0 p).bind k
  | look behind negated body, p, k =>
    let back := (behind.map (·.least)).getD 0
    let found :=
      if back ≤ p.position then body.run text { p with position := p.position - back } some
      else none
    if negated then
      match found with
      | some _ => none
      | none => k p
    else found.bind fun p' => k { p' with position := p.position }
  | conditional g yes no, p, k =>
    if (p.span? g).isSome then yes.run text p k else no.run text p k

/-- Whether a tree matches from a position. -/
def Tree.matchesAt (t : Tree Step) (text : Subject) (i : Nat) : Bool :=
  (t.run text ⟨i, []⟩ some).isSome

/-- Whether a tree matches from some position of the text, its end included. -/
def Tree.occursIn (t : Tree Step) (text : Subject) : Bool :=
  (List.range (text.size + 1)).any fun i => t.matchesAt text i

end LogViewer.Pattern
