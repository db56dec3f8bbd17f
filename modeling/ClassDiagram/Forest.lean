import ClassDiagram.Diagram.Basic

/-!
# Forests of namespaces

The containers of a diagram are drawn inside blocks for their namespaces. The forest has a block for
each namespace in use and for each namespace around one. Inside a block its own containers come
first, then the inner blocks by name, last one first.
-/
namespace ClassDiagram
open Text

/-- A container, or a namespace block by its qualified name. -/
inductive Tree where
  | leaf (c : Container)
  | block (name : Option Text) (children : List Tree)
  deriving Repr

namespace Tree

def shownName (name : Option Text) : Option Text := name.map fun n => n.components.getLast?.getD []

mutual

def render : Tree → Except Fault Text
  | .leaf c => c.render
  | .block name children => do
    let parts ← renderAll children
    return Namespace.wrap (shownName name) (joinWith ['\n'] parts)

def renderAll : List Tree → Except Fault (List Text)
  | [] => .ok []
  | t :: ts => do
    let first ← render t
    let rest ← renderAll ts
    return first :: rest

end

end Tree

namespace Forest

/-- A container with the components of its namespace that are still to be entered. -/
structure Entry where
  path : List Text
  container : Container
  deriving DecidableEq, Repr

def Entry.enter (component : Text) (e : Entry) : Option Entry :=
  match e.path with
  | [] => none
  | w :: r => if w = component then some { e with path := r } else none

/-- The components that some entries enter next, without repetition, last one first. -/
def nextComponents (entries : List Entry) : List Text :=
  (sortBy (fun t => [t]) (entries.filterMap fun e => e.path.head?).eraseDups).reverse

/-- The trees of some entries inside the block of a path; `depth` bounds the length of their paths.
-/
def build : Nat → List Text → List Entry → List Tree
  | 0, _, entries => entries.map fun e => .leaf e.container
  | depth + 1, path, entries =>
    ((entries.filter fun e => e.path = []).map fun e => .leaf e.container)
      ++ (nextComponents entries).map fun w =>
        .block (some (qualify (path ++ [w])))
          (build depth (path ++ [w]) (entries.filterMap fun e => e.enter w))

def ofObjects (objects : List Container) : List Tree :=
  let entries := objects.map fun c => { path := Namespace.parts c.ns, container := c }
  build ((entries.map fun e => e.path.length).foldl max 0) [] entries

end Forest

end ClassDiagram
