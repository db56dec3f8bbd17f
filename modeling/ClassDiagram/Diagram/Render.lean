import ClassDiagram.Forest
import ClassDiagram.Template.Standard

/-!
# Drawing a diagram

A diagram is drawn by filling in a template with its forest of containers and its lists of links.
-/
namespace ClassDiagram.Diagram
open Text

mutual

/-- A tree as an element to draw; the elements of a block are its children. -/
def treeElement : Tree → Template.Value
  | .leaf c =>
    let kind :=
      match c.trait with
      | .enumeration => "Enum".toList
      | .classifier _ _ _ => "Class".toList
    .element kind c.render none
  | .block name children =>
    .element "Namespace".toList (Tree.block name children).render (some (treeElements children))

def treeElements : List Tree → List Template.Value
  | [] => []
  | t :: ts => treeElement t :: treeElements ts

end

def linkListing (kind : String) (links : List Link) : Template.Value :=
  .listing (links.map fun l => .element ("Class".toList ++ kind.toList ++ "Relationship".toList)
    l.render none)

def context (withDependencies : Bool) (d : Diagram) : Template.Context := fun name =>
  if name = "objects".toList then
    some (.listing (treeElements (Forest.ofObjects d.objects)))
  else if name = "inheritance_list".toList then some (linkListing "Inheritance" d.inheritance)
  else if name = "aggregation_list".toList then some (linkListing "Aggregation" d.aggregation)
  else if name = "dependency_list".toList then some (linkListing "Dependency" d.dependency)
  else if name = "nesting_list".toList then some (linkListing "Nesting" d.nesting)
  else if name = Template.dependencyFlag then some (.constant (.flag withDependencies))
  else none

def renderStandard (withDependencies : Bool) (d : Diagram) : Except Fault Text :=
  Template.standard.draw (fun name => .error (.noTemplate name)) (d.context withDependencies) 1

end ClassDiagram.Diagram
