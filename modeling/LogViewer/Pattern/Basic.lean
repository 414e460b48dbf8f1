import LogViewer.Pattern.Matcher
import LogViewer.Pattern.Reader

/-!
# Patterns

A pattern is a regular expression that is searched for in a text. Case is ignored exactly when the
pattern has no upper case letter.

## Main definitions

- `Pattern`: a compiled pattern
- `compile`: reads a pattern
- `Pattern.occursIn`: searches for it
-/

namespace LogViewer

/-- A compiled pattern. -/
structure Pattern where
  tree : Pattern.Tree Pattern.Step

namespace Pattern

/-- The flags of a pattern: case is ignored unless the pattern has an upper case letter. -/
def smartFlags (pattern : List CodePoint) : Flags :=
  { Flags.plain with ignoreCase := !pattern.any fun c => Text.isUpper c.toNat }

/-- Reads a pattern and resolves its flags. -/
def compile (pattern : Text) : Except Error Pattern := do
  let (tree, flags) ← readPattern pattern.toList (smartFlags pattern.toList)
  return ⟨← tree.resolve flags⟩

/-- Whether a pattern occurs in a text. -/
def occursIn (p : Pattern) (text : Text) : Bool :=
  p.tree.occursIn text.toList.toArray

end Pattern

end LogViewer
