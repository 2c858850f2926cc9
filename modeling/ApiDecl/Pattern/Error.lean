import ApiDecl.Pattern.Item
import ApiDecl.Text.Quoted

/-!
# What can be wrong with a pattern

Faults found while reading a pattern have a position in it. Faults of the pattern as a whole have
none.
-/

namespace ApiDecl.Pattern

/-- What is wrong at a position. -/
inductive Cause
  | danglingBackslash
  | badEscape (text : String)
  | incompleteEscape (text : String)
  | missingBrace
  | undefinedName (name : String)
  | octalRange (text : String)
  | openGroup
  | sameLookBehind
  | invalidReference (group : Nat)
  | unterminatedSet
  | badRange (low high : String)
  | leastAboveMost
  | nothingToRepeat
  | multipleRepeat
  | unexpectedEnd
  | missing (what : String)
  | unterminatedName (terminator : Char)
  | badGroupName (name : String)
  | unknownGroupName (name : String)
  | redefinedGroupName (name : String) (group earlier : Nat)
  | badGroupNumber
  | unknownExtension (text : String)
  | unterminatedComment
  | unterminatedGroup
  | tooManyBranches
  | flagsNotAtStart
  | localeFlag
  | incompatibleFlags
  | unknownFlag
  | globalFlagOn
  | globalFlagOff
  | typeFlagOff
  | flagOnAndOff
  | unbalanced
deriving DecidableEq, Repr

/-- The cause in words. -/
def Cause.message : Cause → String
  | danglingBackslash => "bad escape (end of pattern)"
  | badEscape text => "bad escape " ++ text
  | incompleteEscape text => "incomplete escape " ++ text
  | missingBrace => "missing \x7b"
  | undefinedName name => "undefined character name " ++ Text.quoted name
  | octalRange text => "octal escape value " ++ text ++ " outside of range 0-0o377"
  | openGroup => "cannot refer to an open group"
  | sameLookBehind => "cannot refer to group defined in the same lookbehind subpattern"
  | invalidReference group => "invalid group reference " ++ toString group
  | unterminatedSet => "unterminated character set"
  | badRange low high => "bad character range " ++ low ++ "-" ++ high
  | leastAboveMost => "min repeat greater than max repeat"
  | nothingToRepeat => "nothing to repeat"
  | multipleRepeat => "multiple repeat"
  | unexpectedEnd => "unexpected end of pattern"
  | missing what => "missing " ++ what
  | unterminatedName terminator =>
    "missing " ++ String.singleton terminator ++ ", unterminated name"
  | badGroupName name => "bad character in group name " ++ Text.quoted name
  | unknownGroupName name => "unknown group name " ++ Text.quoted name
  | redefinedGroupName name group earlier =>
    "redefinition of group name " ++ Text.quoted name ++ " as group " ++ toString group ++
      "; was group " ++ toString earlier
  | badGroupNumber => "bad group number"
  | unknownExtension text => "unknown extension ?" ++ text
  | unterminatedComment => "missing ), unterminated comment"
  | unterminatedGroup => "missing ), unterminated subpattern"
  | tooManyBranches => "conditional backref with more than two branches"
  | flagsNotAtStart => "global flags not at the start of the expression"
  | localeFlag => "bad inline flags: cannot use 'L' flag with a str pattern"
  | incompatibleFlags => "bad inline flags: flags 'a', 'u' and 'L' are incompatible"
  | unknownFlag => "unknown flag"
  | globalFlagOn => "bad inline flags: cannot turn on global flag"
  | globalFlagOff => "bad inline flags: cannot turn off global flag"
  | typeFlagOff => "bad inline flags: cannot turn off flags 'a', 'u' and 'L'"
  | flagOnAndOff => "bad inline flags: flag turned on and off"
  | unbalanced => "unbalanced parenthesis"

/-- What is wrong with a pattern. -/
inductive Error
  | malformed (cause : Cause) (position : Nat)
  /-- A look-behind takes a varying number of characters. -/
  | variableLookBehind
  /-- A look-behind takes more characters than can be counted. -/
  | distantLookBehind
  /-- A repetition in a pattern that allows none. -/
  | repeatInTemplate (greed : Greed)
  /-- A number of rounds beyond what can be counted. -/
  | hugeRepeat
  /-- Both ways to choose what characters are. -/
  | incompatibleTypes
deriving DecidableEq, Repr

/-- Is the error one of the text of the pattern, and not of a limit or a clash of options? -/
def Error.isPatternFault : Error → Bool
  | hugeRepeat | incompatibleTypes => false
  | _ => true

/-- The name of a kind of repetition in messages. -/
def Greed.operator : Greed → String
  | greedy => "MAX_REPEAT"
  | lazy => "MIN_REPEAT"
  | possessive => "POSSESSIVE_REPEAT"

/-- The error of a pattern in words. A pattern of several lines also shows line and column. -/
def Error.message (pattern : String) : Error → String
  | malformed cause position =>
    let cs := pattern.toList
    let before := cs.take position
    let column := (before.reverse.takeWhile (· ≠ '\n')).length + 1
    cause.message ++ " at position " ++ toString position ++
      (if cs.contains '\n' then
        " (line " ++ toString (before.count '\n' + 1) ++ ", column " ++ toString column ++ ")"
      else "")
  | variableLookBehind => "look-behind requires fixed-width pattern"
  | distantLookBehind => "looks too much behind"
  | repeatInTemplate greed => "internal: unsupported template operator " ++ greed.operator
  | hugeRepeat => "the repetition number is too large"
  | incompatibleTypes => "ASCII and UNICODE flags are incompatible"

end ApiDecl.Pattern
