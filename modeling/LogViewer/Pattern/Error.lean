import LogViewer.Text.Decimal
import LogViewer.Text.Quoted

/-!
# Refused patterns

Why a pattern is refused. Most causes are reported with the position in the pattern; a few faults
end the reading in another way, because they are no faults of the pattern's grammar.

## Main definitions

- `Cause` with `Cause.message`: the faults of grammar
- `Error`: a fault of grammar with its position, or one of the other faults
- `reason`: the text that reports a fault of grammar
-/

namespace LogViewer.Pattern

/-- A fault of a pattern's grammar. -/
inductive Cause where
  | nothingToRepeat
  | multipleRepeat
  | leastAboveGreatest
  | unterminatedSubpattern
  | unterminatedSet
  | unterminatedComment
  | unterminatedName (terminator : CodePoint)
  | missingName (what : Text)
  | missingBrace
  | unbalancedParenthesis
  | unexpectedEnd
  | badEscape (escape : Text)
  | badEscapeAtEnd
  | incompleteEscape (escape : Text)
  | octalTooLarge (escape : Text)
  | undefinedCharacter (name : Text)
  | badRange (first last : Text)
  | invalidReference (group : Nat)
  | openGroup
  | groupOfLookbehind
  | badGroupName (name : Text)
  | badGroupNumber
  | unknownGroupName (name : Text)
  | redefinedGroup (name : Text) (group earlier : Nat)
  | tooManyBranches
  | unknownExtension (text : Text)
  | lateGlobalFlags
  | localeFlag
  | incompatibleFlags
  | unknownFlag
  | missingFlag
  | missingFlagEnd
  | missingColon
  | globalFlagOn
  | globalFlagOff
  | classFlagOff
  | flagOnAndOff
  | variableLookbehind
  | lookbehindTooWide
  | templateOperator (name : Text)
deriving DecidableEq, Repr

/-- The words for a fault. -/
def Cause.message : Cause → Text
  | nothingToRepeat => "nothing to repeat"
  | multipleRepeat => "multiple repeat"
  | leastAboveGreatest => "min repeat greater than max repeat"
  | unterminatedSubpattern => "missing ), unterminated subpattern"
  | unterminatedSet => "unterminated character set"
  | unterminatedComment => "missing ), unterminated comment"
  | unterminatedName terminator => "missing " ++ .ofList [terminator] ++ ", unterminated name"
  | missingName what => "missing " ++ what
  | missingBrace => "missing \x7b"
  | unbalancedParenthesis => "unbalanced parenthesis"
  | unexpectedEnd => "unexpected end of pattern"
  | badEscape escape => "bad escape " ++ escape
  | badEscapeAtEnd => "bad escape (end of pattern)"
  | incompleteEscape escape => "incomplete escape " ++ escape
  | octalTooLarge escape => "octal escape value " ++ escape ++ " outside of range 0-0o377"
  | undefinedCharacter name => "undefined character name " ++ Text.quoted name
  | badRange first last => "bad character range " ++ first ++ "-" ++ last
  | invalidReference group => "invalid group reference " ++ toString group
  | openGroup => "cannot refer to an open group"
  | groupOfLookbehind => "cannot refer to group defined in the same lookbehind subpattern"
  | badGroupName name => "bad character in group name " ++ Text.quoted name
  | badGroupNumber => "bad group number"
  | unknownGroupName name => "unknown group name " ++ Text.quoted name
  | redefinedGroup name group earlier =>
    "redefinition of group name " ++ Text.quoted name ++ " as group " ++ toString group ++
      "; was group " ++ toString earlier
  | tooManyBranches => "conditional backref with more than two branches"
  | unknownExtension text => "unknown extension ?" ++ text
  | lateGlobalFlags => "global flags not at the start of the expression"
  | localeFlag => "bad inline flags: cannot use 'L' flag with a str pattern"
  | incompatibleFlags => "bad inline flags: flags 'a', 'u' and 'L' are incompatible"
  | unknownFlag => "unknown flag"
  | missingFlag => "missing flag"
  | missingFlagEnd => "missing -, : or )"
  | missingColon => "missing :"
  | globalFlagOn => "bad inline flags: cannot turn on global flag"
  | globalFlagOff => "bad inline flags: cannot turn off global flag"
  | classFlagOff => "bad inline flags: cannot turn off flags 'a', 'u' and 'L'"
  | flagOnAndOff => "bad inline flags: flag turned on and off"
  | variableLookbehind => "look-behind requires fixed-width pattern"
  | lookbehindTooWide => "looks too much behind"
  | templateOperator name => "internal: unsupported template operator " ++ name

/-- Why a pattern is refused. -/
inductive Error where
  /-- A fault of grammar, with its position where there is one. -/
  | grammar (cause : Cause) (position : Option Nat)
  /-- A repetition number is too large to be counted. -/
  | repetitionTooLarge
  /-- A repetition number has too many digits to be read. -/
  | tooManyDigits (e : Text.TooManyDigits)
  /-- The pattern asks for both kinds of character classes at once. -/
  | asciiAndUnicode
deriving DecidableEq, Repr

/-- Reports a fault with its position, and with line and column if the pattern has several lines. -/
def reason (pattern : List CodePoint) (cause : Cause) : Option Nat → Text
  | none => cause.message
  | some position =>
    let text := cause.message ++ " at position " ++ toString position
    if pattern.contains '\n' then
      let before := pattern.take position
      let line := before.count (.char '\n') + 1
      let column := (before.reverse.takeWhile (· != ('\n' : CodePoint))).length + 1
      text ++ " (line " ++ toString line ++ ", column " ++ toString column ++ ")"
    else text

end LogViewer.Pattern
