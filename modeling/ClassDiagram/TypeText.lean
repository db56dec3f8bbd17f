import ClassDiagram.Text.Blank

/-!
# Type texts

The text of a type as it is written in a declaration, in a normal form: no two blanks in a row, no
space in front of a pointer or reference sign and no blank beside an angle bracket. Two questions
are asked of such a text: which name it has without its template arguments, and whether it holds a
given name by pointer.
-/
namespace ClassDiagram.TypeText
open Text

def isIndirection (c : Char) : Bool := c = '*' || c = '&'

def isAngle (c : Char) : Bool := c = '<' || c = '>'

def attachIndirections : Text → Text
  | [] => []
  | c :: r =>
    let rest := attachIndirections r
    if c = ' ' && rest.head?.any isIndirection then rest else c :: rest

def dropBlanksBeforeAngles : Text → Text
  | [] => []
  | c :: r =>
    let rest := dropBlanksBeforeAngles r
    if isBlank c && rest.head?.any isAngle then rest else c :: rest

/-- Takes away the blanks behind angle brackets; `behind` says whether the text so far ends in a
bracket. -/
def dropBlanksBehindAngles (behind : Bool) : Text → Text
  | [] => []
  | c :: r =>
    if behind && isBlank c then dropBlanksBehindAngles true r
    else c :: dropBlanksBehindAngles (isAngle c) r

def normalize (t : Text) : Text :=
  dropBlanksBehindAngles false (dropBlanksBeforeAngles (attachIndirections t.collapseBlanks))

/-- One line of a base class without its template arguments: what stands from the first `<` to the
last `>` behind it goes. -/
def dropArgumentsInLine (line : Text) : Text :=
  let block := line.dropWhile (· ≠ '<')
  if block.contains '>' then
    line.takeWhile (· ≠ '<') ++ (block.reverse.takeWhile (· ≠ '>')).reverse
  else line

def dropArguments (t : Text) : Text :=
  joinWith ['\n'] ((splitAtChar '\n' t).map dropArgumentsInLine)

def pointerWrappers : List Text := ["unique_ptr".toList, "shared_ptr".toList, "weak_ptr".toList]

/-- Whether a type holds `name` by pointer: directly in front of a `*`, or as the argument of one of
the standard wrappers. -/
def holdsPointerTo (name type : Text) : Bool :=
  occursIn (name ++ ['*']) type
    || pointerWrappers.any fun wrapper => occursIn (wrapper ++ '<' :: name ++ ['>']) type

end ClassDiagram.TypeText
