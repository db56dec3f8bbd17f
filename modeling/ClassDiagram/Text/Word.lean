import ClassDiagram.Text.Basic
import ClassDiagram.Text.Ranges

/-!
# Word characters

Letters, numbers and the underscore form words. An identifier is a non-empty text of word
characters, and a place in a text is an edge of a word if exactly one of its two neighbours is
a word character.
-/
namespace ClassDiagram.Text

def isWord (c : Char) : Bool :=
  if c.toNat < 128 then c.isAlphanum || c = '_' else inRanges letterOrNumberRanges c.toNat

def isDecimal (c : Char) : Bool :=
  if c.toNat < 128 then c.isDigit else inRanges decimalRanges c.toNat

def IsIdentifier (t : Text) : Prop := t ≠ [] ∧ ∀ c ∈ t, isWord c = true

instance (t : Text) : Decidable (IsIdentifier t) :=
  decidable_of_iff (t ≠ [] ∧ t.all isWord = true) (by rw [IsIdentifier, List.all_eq_true])

/-- Whether exactly one of the two neighbours of a place is of a kind, given what stands in front of
the place, last character first, and what stands behind it. The ends of a text are of no kind. -/
def isEdge (kind : Char → Bool) (before after : Text) : Bool :=
  before.head?.any kind != after.head?.any kind

end ClassDiagram.Text
