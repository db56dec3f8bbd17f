import ClassDiagram.Text.Quoted

/-!
# What can be wrong with a template

The causes for which a template cannot be read or filled in, and their wording. What is described of
the template language is its literal texts, places, conditions, loops, blocks and extensions; that a
template needs more is no mistake in it, and has no wording.
-/
namespace ClassDiagram.Template
open Text

/-- What is still open where the reading of a template stops: the closing tags that were looked for,
for each open part, innermost first, and the names of the open parts. -/
structure Pending where
  closings : List (List Text)
  parts : List Text
  deriving DecidableEq, Repr

inductive Fault where
  | openPart (pending : Pending)
  /-- A tag has an unknown name, or closes something that is not to be closed. -/
  | unknownTag (name : Text) (pending : Pending)
  | namelessTag
  | openComment
  | openRaw
  | unexpectedChar (c : Char) (position : Nat)
  | badName
  | badEscape (reason : Text)
  | unopenedBracket (c : Char)
  | wrongBracket (c expected : Char)
  | endInTag (expected : Text)
  | unexpectedToken (expected found : Text)
  | unexpected (found : Text)
  | noExpression (found : Text)
  | noFieldName
  | badArguments
  | chainedTests
  | noVariable (kind : Text)
  | hyphenInName
  | blockTwice (name : Text)
  | innerExtension
  /-- A loop uses the name that loops have themselves. -/
  | loopName
  | extendedTwice
  | undefinedName (name : Text)
  /-- No other block of this name is extended. -/
  | noEarlierBlock (name : Text)
  | noField (value field : Text)
  | notIterable (kind : Text)
  /-- Blocks are asked for by position, but they have names only. -/
  | noBlockAt (position : Nat)
  | notCallable (kind : Text)
  | unhashable (kind : Text)
  | notText (kind : Text)
  /-- The template needs more of the language than is described. -/
  | beyond
  deriving DecidableEq, Repr

def Pending.message (pending : Pending) (tag : Option Text) : Text :=
  let looking (tags : List Text) : Text := joinWith " or ".toList (tags.map quoted)
  let wanted :=
    match pending.closings with
    | [] => []
    | tags :: _ =>
      if tag.any fun t => pending.closings.any (·.contains t) then
        " You probably made a nesting mistake. Jinja is expecting this tag, but currently ".toList
          ++ "looking for ".toList ++ looking tags ++ ['.']
      else " Jinja was looking for the following tags: ".toList ++ looking tags ++ ['.']
  let innermost :=
    match pending.parts with
    | [] => []
    | part :: _ =>
      " The innermost block that needs to be closed is ".toList ++ part.quoted ++ ['.']
  wanted ++ innermost

def Fault.message : Fault → Text
  | .openPart pending => "Unexpected end of template.".toList ++ pending.message none
  | .unknownTag name pending =>
    "Encountered unknown tag ".toList ++ name.quoted ++ '.' :: pending.message (some name)
  | .namelessTag => "tag name expected".toList
  | .openComment => "Missing end of comment tag".toList
  | .openRaw => "Missing end of raw directive".toList
  | .unexpectedChar c position =>
    "unexpected char ".toList ++ quoted [c] ++ " at ".toList ++ Nat.toDigits 10 position
  | .badName => "Invalid character in identifier".toList
  | .badEscape reason => reason
  | .unopenedBracket c => "unexpected '".toList ++ [c, '\x27']
  | .wrongBracket c expected =>
    "unexpected '".toList ++ c :: "', expected '".toList ++ [expected, '\x27']
  | .endInTag expected =>
    "unexpected end of template, expected ".toList ++ expected.quoted ++ ['.']
  | .unexpectedToken expected found =>
    "expected token ".toList ++ expected.quoted ++ ", got ".toList ++ found.quoted
  | .unexpected found => "unexpected ".toList ++ found.quoted
  | .noExpression found => "Expected an expression, got ".toList ++ found.quoted
  | .noFieldName => "expected name or number".toList
  | .badArguments => "invalid syntax for function call expression".toList
  | .chainedTests => "You cannot chain multiple tests with is".toList
  | .noVariable kind => "can't assign to ".toList ++ kind.quoted
  | .hyphenInName =>
    "Block names in Jinja have to be valid Python identifiers and may not contain hyphens, ".toList
      ++ "use an underscore instead.".toList
  | .blockTwice name => "block ".toList ++ name.quoted ++ " defined twice".toList
  | .innerExtension => "cannot use extend from a non top-level scope".toList
  | .loopName => "Can't assign to special loop variable in for-loop target".toList
  | .extendedTwice => "extended multiple times".toList
  | .undefinedName name => name.quoted ++ " is undefined".toList
  | .noEarlierBlock name => "there is no parent block called ".toList ++ name.quoted ++ ['.']
  | .noField value field => value.quoted ++ " has no attribute ".toList ++ field.quoted
  | .notIterable kind => kind.quoted ++ " object is not iterable".toList
  | .noBlockAt position => Nat.toDigits 10 position
  | .notCallable kind => kind.quoted ++ " object is not callable".toList
  | .unhashable kind => "unhashable type: ".toList ++ kind.quoted
  | .notText kind => kind.quoted ++ " object has no attribute 'split'".toList
  | .beyond => []

end ClassDiagram.Template
