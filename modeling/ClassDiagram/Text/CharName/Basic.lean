import ClassDiagram.Text.Basic
import ClassDiagram.Text.Ranges

/-!
# Lists of character names

The names of consecutive characters that start with the same words.
-/
namespace ClassDiagram.Text

/-- The names of the characters from a first one on. They start with a common stem; what follows it
is separated by commas, and lines may end behind those. A character that has no name of this kind
has an empty entry. -/
structure CharNames where
  first : Nat
  stem : String
  endings : String
  deriving DecidableEq, Repr

def CharNames.find? (l : CharNames) (name : Text) : Option Nat :=
  let stem := l.stem.toList
  let ending := name.drop stem.length
  if stem.isPrefixOf name && !ending.isEmpty then
    let endings := splitAtChar ',' (l.endings.toList.filter (· ≠ '\n'))
    (endings.findIdx? (· = ending)).map (l.first + ·)
  else none

end ClassDiagram.Text
