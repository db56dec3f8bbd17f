import ClassDiagram.Diagram.Relations

/-!
# Diagrams

A diagram holds containers and the four lists of links between them. Its operations may stop at a
fault and then leave what they have done so far: the containers read before it, or the links made
before it.
-/
namespace ClassDiagram
open Text

structure Diagram where
  objects : List Container := []
  inheritance : List Link := []
  aggregation : List Link := []
  dependency : List Link := []
  nesting : List Link := []
  deriving DecidableEq, Repr

/-- A source of declarations: a header, or the reason why there is none. -/
abbrev Source := Except Fault Header

namespace Diagram

abbrev Result := Diagram × Option Fault

def Result.andThen (r : Result) (next : Diagram → Result) : Result :=
  match r.2 with
  | some f => (r.1, some f)
  | none => next r.1

@[simp] theorem Result.andThen_none (d : Diagram) (next : Diagram → Result) :
    Result.andThen (d, none) next = next d := rfl

theorem Result.andThen_assoc (r : Result) (next after : Diagram → Result) :
    (r.andThen next).andThen after = r.andThen fun d => (next d).andThen after := by
  obtain ⟨d, f⟩ := r
  cases f <;> rfl

/-- What both parts of a chain keep, with or without a fault, the chain keeps. -/
theorem Result.andThen_keeps {P : Diagram → Prop} {r : Result} {next : Diagram → Result}
    (h : P r.1) (hnext : ∀ d, P d → P (next d).1) : P (r.andThen next).1 := by
  obtain ⟨d, f⟩ := r
  cases f with
  | none => exact hnext d h
  | some f => exact h

theorem Result.exists_of_andThen {r : Result} {next : Diagram → Result} {e : Diagram}
    (h : r.andThen next = (e, none)) : ∃ d, r = (d, none) ∧ next d = (e, none) := by
  obtain ⟨d, f⟩ := r
  cases f with
  | none => exact ⟨d, rfl, h⟩
  | some f => simp [Result.andThen] at h

def read (d : Diagram) (source : Source) : Result :=
  match source with
  | .error f => (d, some f)
  | .ok h =>
    let found := h.objects
    ({ d with objects := d.objects ++ found.1 }, found.2)

def readAll (d : Diagram) : List Source → Result
  | [] => (d, none)
  | s :: r => Result.andThen (d.read s) fun d => d.readAll r

def buildInheritance (d : Diagram) : Result :=
  let found := Relations.inheritance d.objects
  ({ d with inheritance := found.1 }, found.2)

def buildAggregation (d : Diagram) : Result :=
  let found := Relations.aggregation d.objects
  ({ d with aggregation := found.1 }, found.2)

def buildDependency (d : Diagram) : Result :=
  let found := Relations.dependency d.objects
  ({ d with dependency := found.1 }, found.2)

def buildNesting (d : Diagram) : Result :=
  let found := Relations.nesting d.objects
  ({ d with nesting := found.1 }, found.2)

/-- Rebuilds the lists of links; those of dependencies only if they are asked for. -/
def buildLinks (withDependencies : Bool) (d : Diagram) : Result :=
  Result.andThen d.buildInheritance fun d =>
  Result.andThen d.buildAggregation fun d =>
  Result.andThen d.buildNesting fun d =>
  if withDependencies then d.buildDependency else (d, none)

def sort (d : Diagram) : Diagram :=
  { objects := (sortBy Container.key d.objects).map Container.sortMembers
    inheritance := sortBy Link.key d.inheritance
    aggregation := sortBy Link.key d.aggregation
    dependency := sortBy Link.key d.dependency
    nesting := sortBy Link.key d.nesting }

/-- Reads sources, into an emptied diagram if `reset`, and then rebuilds and sorts the links if
`lists`. -/
def build (withDependencies reset lists : Bool) (sources : List Source) (d : Diagram) : Result :=
  Result.andThen ((if reset then {} else d).readAll sources) fun d =>
  if lists then
    Result.andThen (d.buildLinks withDependencies) fun d => (d.sort, none)
  else (d, none)

def create (withDependencies : Bool) (sources : List Source) (d : Diagram) : Result :=
  build withDependencies true true sources d

/-- Adds sources and leaves the links as they are. -/
def add (sources : List Source) (d : Diagram) : Result := build false false false sources d

def names (d : Diagram) : List Text := d.objects.map Container.name

/-- The container that a name stands for, with its place among the containers. Resolution looks at
names and namespaces only, so the first container with the same two is the one that was found. -/
def find (d : Diagram) (cmp : Comparison) (name : Text) (scope : List Text) :
    Except Fault (Option (Nat × Container)) := do
  let found ← resolve cmp name scope d.objects
  return found.map fun c => (d.objects.findIdx fun o => o.endpoint = c.endpoint, c)

end Diagram

end ClassDiagram
