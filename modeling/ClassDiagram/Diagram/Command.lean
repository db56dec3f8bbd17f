import ClassDiagram.Diagram.Basic

/-!
# Commands

The operations that change a diagram, as data, so that a history of a diagram is a list of them. A
command that stops at a fault leaves its partial result, and the history goes on from there.
-/
namespace ClassDiagram.Diagram
open Text

inductive Command where
  | create (sources : List Source)
  | add (sources : List Source)
  | build (reset lists : Bool) (sources : List Source)
  | clear
  | sort
  | buildLinks
  | buildInheritance
  | buildAggregation
  | buildDependency
  | buildNesting

def Command.apply (withDependencies : Bool) (d : Diagram) : Command → Result
  | .create sources => d.create withDependencies sources
  | .add sources => d.add sources
  | .build reset lists sources => d.build withDependencies reset lists sources
  | .clear => ({}, none)
  | .sort => (d.sort, none)
  | .buildLinks => d.buildLinks withDependencies
  | .buildInheritance => d.buildInheritance
  | .buildAggregation => d.buildAggregation
  | .buildDependency => d.buildDependency
  | .buildNesting => d.buildNesting

/-- The diagram after a history that starts with none. -/
def afterCommands (withDependencies : Bool) (commands : List Command) : Diagram :=
  commands.foldl (fun d c => (c.apply withDependencies d).1) {}

end ClassDiagram.Diagram
