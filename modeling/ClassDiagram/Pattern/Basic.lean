import ClassDiagram.Pattern.CharSet

/-!
# Search patterns

A pattern describes pieces of text: characters, sets, sequences, alternatives, repeats, groups that
are remembered and tests that take no character. `Pattern.width` bounds the number of characters
that it can match.
-/
namespace ClassDiagram

namespace Pattern
open Text

/-- How a repeat chooses: as much as possible first, as little as possible first, or as much as
possible without giving back. -/
inductive Choice where
  | most
  | least
  | keep
  deriving DecidableEq, Repr

inductive Test where
  | wordEdge (ascii : Bool)
  /-- No word begins or ends, and the text is not empty. -/
  | noWordEdge (ascii : Bool)
  | textStart
  | lineStart
  | textEnd
  /-- The text ends, perhaps with a line feed. -/
  | lastLineEnd
  | lineEnd
  deriving DecidableEq, Repr

/-- Whether a test holds between what stands in front, last character first, and what stands
behind. -/
def Test.holds : Test → Text → Text → Bool
  | .wordEdge ascii, before, after => isEdge (CharClass.word.has ascii) before after
  | .noWordEdge ascii, before, after =>
    !(before.isEmpty && after.isEmpty) && !isEdge (CharClass.word.has ascii) before after
  | .textStart, before, _ => before.isEmpty
  | .lineStart, before, _ => before.head?.all (· = '\n')
  | .textEnd, _, after => after.isEmpty
  | .lastLineEnd, _, after => after.isEmpty || after = ['\n']
  | .lineEnd, _, after => after.head?.all (· = '\n')

end Pattern

inductive Pattern where
  | empty
  | test (t : Pattern.Test)
  | char (c : Char)
  | oneOf (s : Pattern.CharSet)
  | seq (p q : Pattern)
  | alt (p q : Pattern)
  | group (number : Nat) (p : Pattern)
  | reference (number : Nat) (letters : Pattern.Letters)
  | repeated (choice : Pattern.Choice) (least : Nat) (most : Option Nat) (p : Pattern)
  /-- The first possibility only. -/
  | keep (p : Pattern)
  | ahead (wanted : Bool) (p : Pattern)
  /-- Whether the pattern matches the characters up to here, which are `width` many. -/
  | behind (wanted : Bool) (width : Nat) (p : Pattern)
  /-- The first if a piece is remembered under the number, else the second. -/
  | given (number : Nat) (p q : Pattern)
  deriving DecidableEq, Repr

namespace Pattern

structure Width where
  least : Nat
  most : Nat
  deriving DecidableEq, Repr

def unbounded : Nat := 0x10000000000000000

/-- The width of a pattern, given the widths of the remembered pieces. -/
def width (pieces : List (Nat × Width)) : Pattern → Width
  | .empty | .test _ | .ahead _ _ | .behind _ _ _ => ⟨0, 0⟩
  | .char _ | .oneOf _ => ⟨1, 1⟩
  | .seq p q =>
    let v := p.width pieces
    let w := q.width pieces
    ⟨min (v.least + w.least) unbounded, min (v.most + w.most) unbounded⟩
  | .alt p q | .given _ p q =>
    let v := p.width pieces
    let w := q.width pieces
    ⟨min v.least w.least, max v.most w.most⟩
  | .group _ p | .keep p => p.width pieces
  | .reference number _ => (pieces.lookup number).getD ⟨0, 0⟩
  | .repeated _ least most p =>
    let v := p.width pieces
    let times := most.getD (if v.most = 0 then 0 else unbounded)
    ⟨min (v.least * least) unbounded, min (v.most * times) unbounded⟩

end Pattern

end ClassDiagram
