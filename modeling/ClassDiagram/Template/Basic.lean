import ClassDiagram.Fault

/-!
# Templates

A template is literal text with places to fill in, loops, parts under a condition, and named blocks.
A template that extends another one shows what stands in front of the extension and then the other
template, with its own blocks in place of the other's blocks of the same names; a block may show the
one that it replaces.

Two names have a meaning of their own: in a block `super` stands for the block that it replaces, and
`self` stands for all blocks. Each of them has that meaning only in a body in which it is used
before a loop takes it for its variable.
-/
namespace ClassDiagram
open Text

inductive Template.Constant where
  | text (t : Text)
  | integer (n : Nat)
  | flag (b : Bool)
  | none
  | emptyList
  | emptyTuple
  | emptyTable
  deriving DecidableEq, Repr

inductive Template.Expr where
  | name (n : Text)
  | constant (c : Template.Constant)
  | field (e : Template.Expr) (n : Text)
  | call (e : Template.Expr)
  | negation (e : Template.Expr)
  | both (e f : Template.Expr)
  | either (e f : Template.Expr)
  /-- An expression of another kind, which is beyond the described language. -/
  | other (kind : Text)
  deriving DecidableEq, Repr

inductive Template.Piece where
  | text (t : Text)
  | place (e : Template.Expr)
  /-- A named block; one that sees loops has the variables of the loops around it. -/
  | block (name : Text) (seesLoops : Bool) (body : List Template.Piece)
  | each (var : Text) (listing : Template.Expr) (body otherwise : List Template.Piece)
  | onlyIf (test : Template.Expr) (body otherwise : List Template.Piece)
  | extend (base : Template.Expr)
  deriving Repr

structure Template where
  pieces : List Template.Piece
  deriving Repr

namespace Template

def Expr.isDescribed : Expr → Bool
  | .name _ => true
  | .constant _ => true
  | .field e _ => e.isDescribed
  | .call e => e.isDescribed
  | .negation e => e.isDescribed
  | .both e f => e.isDescribed && f.isDescribed
  | .either e f => e.isDescribed && f.isDescribed
  | .other _ => false

def Expr.names : Expr → List Text
  | .name n => [n]
  | .constant _ => []
  | .field e _ => e.names
  | .call e => e.names
  | .negation e => e.names
  | .both e f => e.names ++ f.names
  | .either e f => e.names ++ f.names
  | .other _ => []

/-- A name where it is used, or where a loop takes it for its variable. -/
inductive Mention where
  | use (n : Text)
  | loop (n : Text)
  deriving DecidableEq, Repr

namespace Mention

def name : Mention → Text
  | .use n => n
  | .loop n => n

def startsWithUse (mentions : List Mention) (n : Text) : Bool :=
  (mentions.find? fun m => m.name = n) = some (.use n)

end Mention

mutual

/-- The names in a piece, apart from those in blocks. -/
def Piece.mentions : Piece → List Mention
  | .text _ => []
  | .place e => e.names.map .use
  | .block _ _ _ => []
  | .each var listing body otherwise =>
    .loop var :: listing.names.map .use ++ Piece.allMentions body ++ Piece.allMentions otherwise
  | .onlyIf test body otherwise =>
    test.names.map .use ++ Piece.allMentions body ++ Piece.allMentions otherwise
  | .extend base => base.names.map .use

def Piece.allMentions : List Piece → List Mention
  | [] => []
  | p :: ps => Piece.mentions p ++ Piece.allMentions ps

end

abbrev Block := Text × List Piece

mutual

def Piece.blocks : Piece → List Block
  | .block name _ body => (name, body) :: Piece.allBlocks body
  | .each _ _ body otherwise => Piece.allBlocks body ++ Piece.allBlocks otherwise
  | .onlyIf _ body otherwise => Piece.allBlocks body ++ Piece.allBlocks otherwise
  | .text _ => []
  | .place _ => []
  | .extend _ => []

def Piece.allBlocks : List Piece → List Block
  | [] => []
  | p :: ps => Piece.blocks p ++ Piece.allBlocks ps

end

def blocks (t : Template) : List Block := Piece.allBlocks t.pieces

/-- The bodies of the blocks of a name, each in front of the one that it replaces. -/
def layers (blocks : List Block) (name : Text) : List (List Piece) :=
  (blocks.filter fun b => b.1 = name).map fun b => b.2

end Template

end ClassDiagram
