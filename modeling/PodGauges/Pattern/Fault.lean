import PodGauges.Number.Integer
import PodGauges.Text.Quoted

/-!
What can be wrong with the text of a pattern, and how it is worded.
-/

namespace PodGauges.Pattern

/-- Why a text is no pattern. -/
inductive Fault where
  | trailingBackslash
  | badEscape (text : String)
  | incompleteEscape (text : String)
  | octalTooLarge (text : String)
  | missingBrace
  | missingName (what : String)
  | unterminatedName (terminator : Char)
  | undefinedCharacterName (name : String)
  | unterminatedSet
  | badRange (first last : String)
  | leastAboveMost
  | nothingToRepeat
  | multipleRepeat
  | unexpectedEnd
  | badGroupName (name : String)
  | unknownGroupName (name : String)
  | openGroupReference
  | lookBehindGroupReference
  | unknownExtension (text : String)
  | unterminatedComment
  | unterminatedGroup
  | redefinedName (name : String) (group previous : Nat)
  | badGroupNumber
  | invalidGroupReference (group : Int)
  | thirdBranch
  | misplacedGlobalFlags
  | localeFlag
  | conflictingFlags
  | unknownFlag
  | missingFlag (what : String)
  | globalFlagOn
  | globalFlagOff
  | classFlagOff
  | flagOnAndOff
  | unbalancedParenthesis
  | lookBehindTooWide
  | lookBehindWidth
  | templateLoop (kind : String)
  deriving DecidableEq, Repr

/-- The words for a fault, without the place where it was found. -/
def Fault.message : Fault → String
  | .trailingBackslash => "bad escape (end of pattern)"
  | .badEscape text => "bad escape " ++ text
  | .incompleteEscape text => "incomplete escape " ++ text
  | .octalTooLarge text => s!"octal escape value {text} outside of range 0-0o377"
  | .missingBrace => "missing \x7b"
  | .missingName what => "missing " ++ what
  | .unterminatedName terminator => s!"missing {terminator}, unterminated name"
  | .undefinedCharacterName name => "undefined character name " ++ Text.quotedString name
  | .unterminatedSet => "unterminated character set"
  | .badRange first last => s!"bad character range {first}-{last}"
  | .leastAboveMost => "min repeat greater than max repeat"
  | .nothingToRepeat => "nothing to repeat"
  | .multipleRepeat => "multiple repeat"
  | .unexpectedEnd => "unexpected end of pattern"
  | .badGroupName name => "bad character in group name " ++ Text.quotedString name
  | .unknownGroupName name => "unknown group name " ++ Text.quotedString name
  | .openGroupReference => "cannot refer to an open group"
  | .lookBehindGroupReference =>
    "cannot refer to group defined in the same lookbehind subpattern"
  | .unknownExtension text => "unknown extension ?" ++ text
  | .unterminatedComment => "missing ), unterminated comment"
  | .unterminatedGroup => "missing ), unterminated subpattern"
  | .redefinedName name group previous =>
    s!"redefinition of group name {Text.quotedString name} as group {group}; was group {previous}"
  | .badGroupNumber => "bad group number"
  | .invalidGroupReference group => s!"invalid group reference {group}"
  | .thirdBranch => "conditional backref with more than two branches"
  | .misplacedGlobalFlags => "global flags not at the start of the expression"
  | .localeFlag => "bad inline flags: cannot use 'L' flag with a str pattern"
  | .conflictingFlags => "bad inline flags: flags 'a', 'u' and 'L' are incompatible"
  | .unknownFlag => "unknown flag"
  | .missingFlag what => "missing " ++ what
  | .globalFlagOn => "bad inline flags: cannot turn on global flag"
  | .globalFlagOff => "bad inline flags: cannot turn off global flag"
  | .classFlagOff => "bad inline flags: cannot turn off flags 'a', 'u' and 'L'"
  | .flagOnAndOff => "bad inline flags: flag turned on and off"
  | .unbalancedParenthesis => "unbalanced parenthesis"
  | .lookBehindTooWide => "looks too much behind"
  | .lookBehindWidth => "look-behind requires fixed-width pattern"
  | .templateLoop kind => "internal: unsupported template operator " ++ kind

/-- Why a text was refused as a pattern: it is none, and where that shows; or it is one that asks
for too many repetitions, spells their number in too many digits, names a character by a number
that is too large to be looked up, asks for two sets of character classes at once, or nests its
brackets too deep. -/
inductive Error where
  | malformed (fault : Fault) (position : Option Nat)
  | tooManyRepetitions
  | tooManyDigits (count : Nat)
  | pointTooLarge
  | twoClassFlags
  | tooDeep
  deriving DecidableEq, Repr

/-- The line and the column of a position, both counted from one. -/
def lineAndColumn (pattern : List Char) (position : Nat) : Nat × Nat :=
  let before := pattern.take position
  let column := (before.reverse.takeWhile (· != '\n')).length + 1
  (before.count '\n' + 1, column)

/-- The wording of an error in a given text. -/
def Error.message (pattern : List Char) : Error → String
  | .malformed fault none => fault.message
  | .malformed fault (some position) =>
    let text := s!"{fault.message} at position {position}"
    if pattern.contains '\n' then
      let (line, column) := lineAndColumn pattern position
      s!"{text} (line {line}, column {column})"
    else text
  | .tooManyRepetitions => "the repetition number is too large"
  | .tooManyDigits count =>
    s!"Exceeds the limit ({Number.maxDecimalDigits} digits) for integer string conversion: " ++
      s!"value has {count} digits; use sys.set_int_max_str_digits() to increase the limit"
  | .pointTooLarge => "Python int too large to convert to C int"
  | .twoClassFlags => "ASCII and UNICODE flags are incompatible"
  | .tooDeep => "maximum recursion depth exceeded"

end PodGauges.Pattern
