import ClassDiagram.Template.Grammar

/-!
# Reading templates

A template is read token by token. The parts that are open are kept, innermost first, with the
pieces in front of them; a closing tag has to close the innermost one.
-/
namespace ClassDiagram.Template
open Text

def expectEnd (ts : List Token) : Except Fault (List Token) := expect .tagEnd Token.tagEnd.shown ts

/-- Reads the end of a tag that opens a part. A colon may stand in front of it. -/
def expectBody (ts : List Token) : Except Fault (List Token) := do
  if isSignNext ":" ts then expectEnd (← advance ts) else expectEnd ts

inductive Opening where
  | block (name : Text) (seesLoops : Bool)
  | each (var : Text) (listing : Expr)
  | noneOf (var : Text) (listing : Expr) (body : List Piece)
  /-- A part under a condition, with the parts under the conditions in front of it, latest first. -/
  | onlyIf (others : List (Expr × List Piece)) (test : Expr)
  | otherwise (others : List (Expr × List Piece))

namespace Opening

def tag : Opening → Text
  | .block _ _ => "block".toList
  | .each _ _ => "for".toList
  | .noneOf _ _ _ => "for".toList
  | .onlyIf _ _ => "if".toList
  | .otherwise _ => "if".toList

def closings : Opening → List Text
  | .block _ _ => ["endblock".toList]
  | .each _ _ => ["endfor".toList, "else".toList]
  | .noneOf _ _ _ => ["endfor".toList]
  | .onlyIf _ _ => ["elif".toList, "else".toList, "endif".toList]
  | .otherwise _ => ["endif".toList]

def choice (last : List Piece) : List (Expr × List Piece) → List Piece
  | [] => last
  | (test, body) :: r => choice [.onlyIf test body last] r

def close (body : List Piece) : Opening → List Piece
  | .block name seesLoops => [.block name seesLoops body]
  | .each var listing => [.each var listing body []]
  | .noneOf var listing first => [.each var listing first body]
  | .onlyIf others test => choice [] ((test, body) :: others)
  | .otherwise others => choice body others

end Opening

/-- A template under construction: the pieces of the innermost open part, latest first, and the open
parts with the pieces in front of them. -/
structure Draft where
  pieces : List Piece
  around : List (Opening × List Piece)

namespace Draft

def pending (d : Draft) : Pending where
  closings := d.around.map fun p => p.1.closings
  parts := d.around.map fun p => p.1.tag

def push (d : Draft) (p : Piece) : Draft := { d with pieces := p :: d.pieces }

/-- How many parts stand inside each other, and how many conditions follow each other. -/
def nestingLimit : Nat := 15

def opened (d : Draft) (o : Opening) : Except Fault Draft :=
  if d.around.length < nestingLimit then .ok ⟨[], (o, d.pieces) :: d.around⟩ else .error .beyond

def readOpening (d : Draft) (name : Text) (ts : List Token) :
    Except Fault (Draft × List Token) := do
  if name = "block".toList then
    let (n, ts) ← expectName ts
    let (seesLoops, ts) ← skipWord "scoped" ts
    if isNext "required" ts then .error .beyond
    else if isSignNext "-" ts then .error .hyphenInName
    else return (← d.opened (.block n seesLoops), ← expectBody ts)
  else if name = "for".toList then
    let (var, ts) ← readVariable ts
    let ts ← expect (.name "in".toList) "in".toList ts
    let (listing, ts) ← readValue .plain (some "recursive") ts
    if isNext "if" ts || isNext "recursive" ts then .error .beyond
    else return (← d.opened (.each var listing), ← expectBody ts)
  else if name = "if".toList then
    let (test, ts) ← readValue .plain none ts
    return (← d.opened (.onlyIf [] test), ← expectBody ts)
  else if name = "extends".toList then
    let (base, ts) ← readExpr ts
    return (d.push (.extend base), ← expectEnd ts)
  else .error (.unknownTag name d.pending)

def readClosing (d : Draft) (o : Opening) (outer : List Piece)
    (around : List (Opening × List Piece)) (name : Text) (ts : List Token) :
    Except Fault (Draft × List Token) := do
  let body := d.pieces.reverse
  let closed : Draft := ⟨(o.close body).reverse ++ outer, around⟩
  let turned (o : Opening) : Draft := ⟨[], (o, outer) :: around⟩
  match o with
  | .block n _ =>
    let ts ← if ts.head? = some (.name n) then advance ts else pure ts
    return (closed, ← expectEnd ts)
  | .each var listing =>
    if name = "endfor".toList then return (closed, ← expectEnd ts)
    else return (turned (.noneOf var listing body), ← expectBody ts)
  | .onlyIf others test =>
    if name = "endif".toList then return (closed, ← expectEnd ts)
    else if name = "else".toList then
      return (turned (.otherwise ((test, body) :: others)), ← expectBody ts)
    else if nestingLimit ≤ others.length then .error .beyond
    else
      let (next, ts) ← readValue .plain none ts
      return (turned (.onlyIf ((test, body) :: others) next), ← expectBody ts)
  | .noneOf _ _ _ => return (closed, ← expectEnd ts)
  | .otherwise _ => return (closed, ← expectEnd ts)

/-- The tags that are beyond the described language. -/
def otherTags : List String :=
  ["print", "macro", "include", "from", "import", "set", "with", "autoescape", "call", "filter"]

/-- Reads a tag that ends no open part. One with an unknown name is refused before anything behind
the name is looked at. -/
def readKnown (d : Draft) (name : Text) (ts : List Token) : Except Fault (Draft × List Token) := do
  if ["block", "for", "if", "extends"].contains (String.ofList name) then
    d.readOpening name (← advance ts)
  else if otherTags.contains (String.ofList name) then .error .beyond
  else .error (.unknownTag name d.pending)

def readTag (d : Draft) (ts : List Token) : Except Fault (Draft × List Token) := do
  match ts with
  | .name name :: _ =>
    match d.around with
    | (o, outer) :: around =>
      if o.closings.contains name then d.readClosing o outer around name (← advance ts)
      else d.readKnown name ts
    | [] => d.readKnown name ts
  | _ => .error .namelessTag

def read : Nat → Draft → List Token → Except Fault (List Piece)
  | _, d, [] => if d.around.isEmpty then .ok d.pieces.reverse else .error (.openPart d.pending)
  | 0, d, _ => .error (.openPart d.pending)
  | fuel + 1, d, .data t :: r => do read fuel (d.push (.text t)) (← advance (.data t :: r))
  | fuel + 1, d, .placeStart :: r => do
    let (e, ts) ← readValue .full none (← advance (.placeStart :: r))
    let ts ← expect .placeEnd Token.placeEnd.shown ts
    read fuel (d.push (.place e)) ts
  | fuel + 1, d, .tagStart :: r => do
    let (d, ts) ← d.readTag (← advance (.tagStart :: r))
    read fuel d ts
  | _, _, .bad f :: _ => .error f
  | _, _, t :: _ => .error (.unexpected t.shown)

end Draft

mutual

def Piece.takesLoop : Piece → Bool
  | .each var _ body otherwise =>
    var = "loop".toList || Piece.anyTakesLoop body || Piece.anyTakesLoop otherwise
  | .onlyIf _ body otherwise => Piece.anyTakesLoop body || Piece.anyTakesLoop otherwise
  | .block _ _ body => Piece.anyTakesLoop body
  | .text _ => false
  | .place _ => false
  | .extend _ => false

def Piece.anyTakesLoop : List Piece → Bool
  | [] => false
  | p :: ps => Piece.takesLoop p || Piece.anyTakesLoop ps

end

mutual

/-- Why a piece cannot stand in a block or a loop; blocks inside are not looked into. -/
def Piece.misplaced : Piece → Option Fault
  | .extend _ => some .innerExtension
  | .each var listing body otherwise =>
    if Piece.takesLoop (.each var listing body otherwise) then some .loopName
    else (Piece.anyMisplaced body).or (Piece.anyMisplaced otherwise)
  | .onlyIf _ body otherwise => (Piece.anyMisplaced body).or (Piece.anyMisplaced otherwise)
  | .block _ _ _ => none
  | .text _ => none
  | .place _ => none

def Piece.anyMisplaced : List Piece → Option Fault
  | [] => none
  | p :: ps => (Piece.misplaced p).or (Piece.anyMisplaced ps)

end

/-- Why one of some pieces outside of blocks and loops cannot stand where it does. Nothing is looked
for behind an extension that certainly follows another one, because nothing there is ever shown;
`outer` is whether the pieces stand under no condition, and `extended` whether an extension under no
condition stands in front. -/
def Piece.misplacedTop (outer extended : Bool) : List Piece → Option Fault
  | [] => none
  | .extend _ :: r => if extended then none else Piece.misplacedTop outer outer r
  | .onlyIf _ body otherwise :: r =>
    ((Piece.misplacedTop false extended body).or (Piece.misplacedTop false extended otherwise)).or
      (Piece.misplacedTop outer extended r)
  | p :: r => (Piece.misplaced p).or (Piece.misplacedTop outer extended r)

def repeated? : List Text → List Text → Option Text
  | _, [] => none
  | seen, n :: r => if seen.contains n then some n else repeated? (n :: seen) r

/-- A template from its pieces, unless two blocks have one name or a piece is misplaced. -/
def ofPieces (pieces : List Piece) : Except Fault Template :=
  match repeated? [] ((Piece.allBlocks pieces).map fun b => b.1) with
  | some name => .error (.blockTwice name)
  | none =>
    let inBlocks := (Piece.allBlocks pieces).findSome? fun b => Piece.anyMisplaced b.2
    match (Piece.misplacedTop true false pieces).or inBlocks with
    | some f => .error f
    | none => .ok ⟨pieces⟩

def parse (t : Text) : Except Fault Template := do
  let ts := tokens t.normalizeLineFeeds
  ofPieces (← Draft.read ts.length ⟨[], []⟩ ts)

end ClassDiagram.Template
