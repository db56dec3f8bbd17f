import ClassDiagram.Container

/-!
# Links

A link joins two containers, each named by its name and namespace. It is drawn as one line with the
kind of the link as an arrow, and with the number of members behind an aggregation when that is not
one.
-/
namespace ClassDiagram
open Text

inductive LinkKind where
  | inheritance
  | aggregation
  | composition
  | dependency
  | nesting
  | other (label : Text)
  deriving DecidableEq, Repr

namespace LinkKind

def label : LinkKind → Text
  | .inheritance => "inherit".toList
  | .aggregation => "aggregation".toList
  | .composition => "composition".toList
  | .dependency => "dependency".toList
  | .nesting => "nesting".toList
  | .other label => label

def ofLabel (label : Text) : LinkKind :=
  if label = LinkKind.inheritance.label then .inheritance
  else if label = LinkKind.aggregation.label then .aggregation
  else if label = LinkKind.composition.label then .composition
  else if label = LinkKind.dependency.label then .dependency
  else if label = LinkKind.nesting.label then .nesting
  else .other label

def arrow : LinkKind → Except Fault Text
  | .inheritance => .ok "<|--".toList
  | .aggregation => .ok "o--".toList
  | .composition => .ok "*--".toList
  | .dependency => .ok "<..".toList
  | .nesting => .ok "+--".toList
  | .other label => .error (.unknownLink label)

end LinkKind

structure Endpoint where
  name : Text
  ns : Text
  deriving DecidableEq, Repr

def Container.endpoint (c : Container) : Endpoint := { name := c.name, ns := c.ns }

namespace Endpoint

/-- An end outside of namespaces is shown by its name, any other with its namespace in front. The
containers inside containers have dots in their names too if `dots` says so. -/
def render (dots : Bool) (e : Endpoint) : Text :=
  if e.ns = [] then e.name
  else Namespace.dotted e.ns ++ '.' :: (if dots then Namespace.dotted e.name else e.name)

end Endpoint

structure Link where
  kind : LinkKind
  parent : Endpoint
  child : Endpoint
  count : Int := 1
  dots : Bool := false
  deriving DecidableEq, Repr

namespace Link

def inherits (parent child : Endpoint) : Link := { kind := .inheritance, parent, child }

/-- The class `parent` has `count` members of type `child`. -/
def aggregates (parent child : Endpoint) (count : Int) (kind : LinkKind) : Link :=
  { kind, parent, child, count }

/-- An operation of `child` takes a `parent`. -/
def depends (parent child : Endpoint) : Link := { kind := .dependency, parent, child }

def nests (parent child : Endpoint) : Link := { kind := .nesting, parent, child, dots := true }

def decimal (n : Int) : Text :=
  match n with
  | .ofNat n => Nat.toDigits 10 n
  | .negSucc n => '-' :: Nat.toDigits 10 (n + 1)

/-- The number at an arrow; the number one is not shown. -/
def countMark (n : Int) : Text := if n = 1 then [] else '\x22' :: decimal n ++ ['\x22', ' ']

def render (l : Link) : Except Fault Text := do
  let arrow ← l.kind.arrow
  return l.parent.render l.dots ++ ' ' :: countMark l.count ++ arrow ++ ' ' :: l.child.render l.dots
    ++ ['\n']

/-- Links are sorted by the names of their ends and the label of their kind. -/
def key (l : Link) : Key := [l.parent.name, l.child.name, l.kind.label]

end Link

end ClassDiagram
