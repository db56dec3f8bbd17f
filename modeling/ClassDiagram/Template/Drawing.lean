import ClassDiagram.Template.Value

/-!
# Filling in templates

`Template.draw` fills in a template. The blocks of all templates in use are kept in one list, those
of the extending template first, so that the first block of a name is the one to show and the next
one is the one that it replaces. Blocks do not see the variables of the loops around them unless
they say so.
-/
namespace ClassDiagram.Template
open Text

structure Scope where
  context : Context
  bound : Bindings
  own : Context
  block : Context → Text → Except ClassDiagram.Fault Text
  /-- Texts and places are left out, because another template is extended. -/
  silent : Bool

namespace Scope

/-- The value of a name: a loop variable, a name with a meaning of its own, a value of the context,
or what is there for every template. -/
def value (s : Scope) (n : Text) : Value :=
  ((((s.bound.lookup n).or (s.own n)).or (s.context n)).or (tools n)).getD
    (.missing (.undefinedName n))

def bind (s : Scope) (var : Text) (v : Value) : Scope :=
  { s with bound := (var, v) :: ("loop".toList, .loop) :: s.bound }

def visible (s : Scope) : Context := fun n => (s.bound.lookup n).or (s.context n)

end Scope

def Expr.eval (s : Scope) : Expr → Except ClassDiagram.Fault Value
  | .name n => .ok (s.value n)
  | .constant c => .ok (.constant c)
  | .field e n => do (← e.eval s).field n
  | .call e => do (← e.eval s).call
  | .negation e => do return .constant (.flag !(← e.eval s).truth)
  | .both e f => do
    let v ← e.eval s
    if v.truth then f.eval s else return v
  | .either e f => do
    let v ← e.eval s
    if v.truth then return v else f.eval s
  | .other _ => .error (.template .beyond)

mutual

def Piece.draw (s : Scope) : Piece → Except ClassDiagram.Fault Text
  | .text t => .ok (if s.silent then [] else t)
  | .place e => if s.silent then .ok [] else do (← e.eval s).shown
  | .block name seesLoops _ => s.block (if seesLoops then s.visible else s.context) name
  | .each var listing body otherwise => do
    let elements ← (← listing.eval s).elements
    if elements.isEmpty then Piece.drawAll s otherwise
    else return (← elements.mapM fun v => Piece.drawAll (s.bind var v) body).flatten
  | .onlyIf test body otherwise => do
    if (← test.eval s).truth then Piece.drawAll s body else Piece.drawAll s otherwise
  | .extend _ => .ok []

def Piece.drawAll (s : Scope) : List Piece → Except ClassDiagram.Fault Text
  | [] => .ok []
  | p :: ps => do
    let first ← Piece.draw s p
    let rest ← Piece.drawAll s ps
    return first ++ rest

end

/-- The names that have a meaning of their own in some pieces: those that are used before a loop
takes them. -/
def ownNames (pieces : List Piece) (given : Context) : Context := fun n =>
  if Mention.startsWithUse (Piece.allMentions pieces) n then given n else none

def selfValue (blocks : List Block) (drawn : Text → Nat → Except ClassDiagram.Fault Text) :
    Value :=
  .blockTable (fun n => (layers blocks n).length) drawn

/-- A block of a name filled in: the one that replaces all others, or the one at a level below it.
`fuel` bounds how many blocks are shown inside each other. -/
def drawBlock (blocks : List Block) :
    Nat → Context → Text → Nat → Except ClassDiagram.Fault Text
  | 0, _, _, _ => .error (.template .beyond)
  | fuel + 1, context, name, level =>
    let body := (layers blocks name).getD level []
    let drawn := drawBlock blocks fuel context
    Piece.drawAll
      { context
        bound := []
        own := ownNames body fun n =>
          if n = "super".toList then
            some (.block name (level + 1) (layers blocks name).length (drawn name))
          else if n = "self".toList then some (selfValue blocks drawn)
          else none
        block := fun context inner => drawBlock blocks fuel context inner 0
        silent := false }
      body

structure Stage where
  blocks : List Block
  base : Option Template

/-- How many blocks are shown inside each other in the described language. -/
def blockLimit : Nat := 50

def Stage.scope (context : Context) (pieces : List Piece) (stage : Stage) : Scope where
  context
  bound := []
  own := ownNames pieces fun n =>
    if n = "self".toList then
      some (selfValue stage.blocks (drawBlock stage.blocks blockLimit context))
    else none
  block context name := drawBlock stage.blocks blockLimit context name 0
  silent := stage.base.isSome

mutual

/-- A piece outside of blocks and loops filled in; `scope` is what it is filled in with. Behind an
extension only loops are still gone through. -/
def Piece.drawTop (find : Text → Except ClassDiagram.Fault Template) (scope : Stage → Scope)
    (stage : Stage) : Piece → Except ClassDiagram.Fault (Text × Stage)
  | .extend base => do
    if stage.base.isSome then .error (.template .extendedTwice)
    else
      let t ← find (← (← base.eval (scope stage)).templateName)
      return ([], ⟨stage.blocks ++ t.blocks, some t⟩)
  | .onlyIf test body otherwise => do
    if (← test.eval (scope stage)).truth then Piece.drawAllTop find scope stage body
    else Piece.drawAllTop find scope stage otherwise
  | .block name seesLoops body => do
    if stage.base.isSome then return ([], stage)
    else return (← Piece.draw (scope stage) (.block name seesLoops body), stage)
  | .text t => do return (← Piece.draw (scope stage) (.text t), stage)
  | .place e => do return (← Piece.draw (scope stage) (.place e), stage)
  | .each var listing body otherwise => do
    return (← Piece.draw (scope stage) (.each var listing body otherwise), stage)

def Piece.drawAllTop (find : Text → Except ClassDiagram.Fault Template) (scope : Stage → Scope)
    (stage : Stage) : List Piece → Except ClassDiagram.Fault (Text × Stage)
  | [] => .ok ([], stage)
  | p :: ps => do
    let (first, stage) ← Piece.drawTop find scope stage p
    let (rest, stage) ← Piece.drawAllTop find scope stage ps
    return (first ++ rest, stage)

end

/-- A template filled in with some blocks, its own and those of the templates that extend it.
Templates are found by `find`, and `fuel` bounds how many extend each other. -/
def drawWith (find : Text → Except ClassDiagram.Fault Template) (context : Context) :
    Nat → List Block → Template → Except ClassDiagram.Fault Text
  | 0, _, _ => .error (.template .beyond)
  | fuel + 1, blocks, t => do
    let (own, stage) ←
      Piece.drawAllTop find (Stage.scope context t.pieces) ⟨blocks, none⟩ t.pieces
    match stage.base with
    | none => return own
    | some base => return own ++ (← drawWith find context fuel stage.blocks base)

def draw (find : Text → Except ClassDiagram.Fault Template) (context : Context) (fuel : Nat)
    (t : Template) : Except ClassDiagram.Fault Text :=
  drawWith find context fuel t.blocks t

end ClassDiagram.Template
