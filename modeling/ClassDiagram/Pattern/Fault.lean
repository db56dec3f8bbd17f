import ClassDiagram.Text.Quoted

/-!
# Why a text is no pattern

The causes for which a text is refused as a pattern or a match is given up, and their wording. Most
have a place in the text; if the text has several lines, the line and the column of the place are
given too.
-/
namespace ClassDiagram.Pattern
open Text

def digitLimit : Nat := 4300

inductive Cause where
  | nothingToRepeat
  | multipleRepeat
  | repeatOrder
  /-- A repeat has too large a number. -/
  | repeatNumber
  /-- A number of a repeat has too many digits. -/
  | repeatDigits (count : Nat)
  | openSet
  | openGroup
  | unopenedGroup
  | openComment
  | finalBackslash
  | badEscape (sign : Text)
  | shortEscape (sign : Text)
  | octalEscape (sign : Text)
  | noBrace
  | unknownCharacter (name : Text)
  /-- A span of characters has no ends or ends before it starts. -/
  | badSpan (first last : Text)
  | missingName (what : Text)
  | openName (closing : Char)
  | badName (name : Text)
  | unknownName (name : Text)
  | takenName (name : Text) (number earlier : Nat)
  | badNumber
  | unknownGroup (number : Nat)
  | openReference
  /-- A group is referred to inside the test of what stands in front that has it. -/
  | behindReference
  | thirdBranch
  | unexpectedEnd
  | unknownOpening (sign : Text)
  | lateFlags
  /-- A flag is for another kind of text. -/
  | localeFlag
  | mixedFlags
  | unknownFlag
  | missingFlag
  | openFlagsOn
  | openFlagsOff
  /-- A flag is only for a whole pattern. -/
  | wholeFlag (on : Bool)
  | fixedFlag
  | flagTwice
  /-- What stands in front is tested for pieces of several lengths. -/
  | looseBehind
  /-- A remembered piece of a match ends before it starts. -/
  | crossedPiece
  deriving DecidableEq, Repr

def Cause.message : Cause → Text
  | .nothingToRepeat => "nothing to repeat".toList
  | .multipleRepeat => "multiple repeat".toList
  | .repeatOrder => "min repeat greater than max repeat".toList
  | .repeatNumber => "the repetition number is too large".toList
  | .repeatDigits count =>
    "Exceeds the limit (".toList ++ Nat.toDigits 10 digitLimit
      ++ " digits) for integer string conversion: value has ".toList ++ Nat.toDigits 10 count
      ++ " digits; use sys.set_int_max_str_digits() to increase the limit".toList
  | .openSet => "unterminated character set".toList
  | .openGroup => "missing ), unterminated subpattern".toList
  | .unopenedGroup => "unbalanced parenthesis".toList
  | .openComment => "missing ), unterminated comment".toList
  | .finalBackslash => "bad escape (end of pattern)".toList
  | .badEscape sign => "bad escape ".toList ++ sign
  | .shortEscape sign => "incomplete escape ".toList ++ sign
  | .octalEscape sign =>
    "octal escape value ".toList ++ sign ++ " outside of range 0-0o377".toList
  | .noBrace => "missing \x7b".toList
  | .unknownCharacter name => "undefined character name ".toList ++ name.quoted
  | .badSpan first last => "bad character range ".toList ++ first ++ '-' :: last
  | .missingName what => "missing ".toList ++ what
  | .openName closing => "missing ".toList ++ closing :: ", unterminated name".toList
  | .badName name => "bad character in group name ".toList ++ name.quoted
  | .unknownName name => "unknown group name ".toList ++ name.quoted
  | .takenName name number earlier =>
    "redefinition of group name ".toList ++ name.quoted ++ " as group ".toList
      ++ Nat.toDigits 10 number ++ "; was group ".toList ++ Nat.toDigits 10 earlier
  | .badNumber => "bad group number".toList
  | .unknownGroup number => "invalid group reference ".toList ++ Nat.toDigits 10 number
  | .openReference => "cannot refer to an open group".toList
  | .behindReference =>
    "cannot refer to group defined in the same lookbehind subpattern".toList
  | .thirdBranch => "conditional backref with more than two branches".toList
  | .unexpectedEnd => "unexpected end of pattern".toList
  | .unknownOpening sign => "unknown extension ?".toList ++ sign
  | .lateFlags => "global flags not at the start of the expression".toList
  | .localeFlag => "bad inline flags: cannot use 'L' flag with a str pattern".toList
  | .mixedFlags => "bad inline flags: flags 'a', 'u' and 'L' are incompatible".toList
  | .unknownFlag => "unknown flag".toList
  | .missingFlag => "missing flag".toList
  | .openFlagsOn => "missing -, : or )".toList
  | .openFlagsOff => "missing :".toList
  | .wholeFlag on =>
    "bad inline flags: cannot turn ".toList ++ (if on then "on" else "off").toList
      ++ " global flag".toList
  | .fixedFlag => "bad inline flags: cannot turn off flags 'a', 'u' and 'L'".toList
  | .flagTwice => "bad inline flags: flag turned on and off".toList
  | .looseBehind => "look-behind requires fixed-width pattern".toList
  | .crossedPiece =>
    ("The span of capturing group is wrong,"
      ++ " please report a bug for the re module.").toList

/-- Why a text is no pattern: the cause, its place in the text if it has one, and the line and the
column of that place if the text has several lines. -/
structure Fault where
  cause : Cause
  position : Option Nat
  line : Option (Nat × Nat)
  deriving DecidableEq, Repr

def Cause.at (cause : Cause) (position : Nat) : Fault := ⟨cause, some position, none⟩

/-- Adds the line and the column in a text of several lines. -/
def Fault.inText (f : Fault) (t : Text) : Fault :=
  match f.position with
  | some position =>
    if t.contains '\n' then
      let front := t.take position
      let column := (front.reverse.takeWhile (· ≠ '\n')).length + 1
      { f with line := some (front.count '\n' + 1, column) }
    else f
  | none => f

def Fault.message (f : Fault) : Text :=
  let place :=
    match f.position with
    | some position => " at position ".toList ++ Nat.toDigits 10 position
    | none => []
  let line :=
    match f.line with
    | some (line, column) =>
      " (line ".toList ++ Nat.toDigits 10 line ++ ", column ".toList ++ Nat.toDigits 10 column
        ++ [')']
    | none => []
  f.cause.message ++ place ++ line

end ClassDiagram.Pattern
