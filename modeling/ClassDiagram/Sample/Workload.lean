import ClassDiagram.Diagram.Render
import ClassDiagram.Sample.Source

/-!
# Workloads

Four pieces of work on the sample sources, each prepared once and then run any number of times. How
a source text is read is left open.
-/
namespace ClassDiagram.Sample

inductive Workload where
  | relations
  /-- Draws all containers and links one by one, and the containers in two nested blocks; there is
  at least one container. -/
  | parts
  | drawing
  /-- Draws the small file alone and twice over, and then the big one; each run builds a diagram of
  three files in steps and shows its first container. -/
  | pipeline
  deriving DecidableEq, Repr

inductive Answer where
  | counts (numbers : List Nat)
  | text (t : Text)
  | overview (numbers : List Nat) (first : Text)
  deriving DecidableEq, Repr

def finished (r : Diagram.Result) : Except Fault Diagram :=
  match r.2 with
  | some f => .error f
  | none => .ok r.1

def linkCounts (d : Diagram) : List Nat :=
  [d.inheritance.length, d.aggregation.length, d.dependency.length, d.nesting.length]

/-- All containers and links of a diagram drawn one by one, and then the containers in a block whose
second half is a block of its own; a single container stands in the first half. -/
def drawParts (d : Diagram) : Except Fault Text := do
  let half := max 1 (d.objects.length / 2)
  let objects ← d.objects.mapM Container.render
  let links ← (d.inheritance ++ d.aggregation ++ d.dependency ++ d.nesting).mapM Link.render
  let child := Tree.block (some "child".toList) ((d.objects.drop half).map .leaf)
  let root := Tree.block (some "root".toList) ((d.objects.take half).map .leaf ++ [child])
  return objects.flatten ++ links.flatten ++ (← root.render)

/-- What the runs answer in turn, where each starts from what the one before it left. -/
def answersOf {α : Type} (step : α → Except Fault (Answer × α)) :
    Nat → α → Except Fault (List Answer)
  | 0, _ => .ok []
  | runs + 1, a => do
    let (answer, a) ← step a
    return answer :: (← answersOf step runs a)

def countLinks (d : Diagram) : Except Fault (Answer × Diagram) := do
  let d ← finished (d.buildLinks true)
  let members := d.objects.flatMap Container.members
  return (.counts (linkCounts d ++ [members.length]), d.sort)

def overview (big small : Source) : Except Fault Answer := do
  let d ← finished (Diagram.Result.andThen (Diagram.create true [big] {}) fun d =>
    Diagram.Result.andThen (d.add [small, small]) fun d => d.sort.buildLinks true)
  match d.objects with
  | [] => .error .noObjects
  | c :: _ => return .overview (d.objects.length :: linkCounts d) (← c.render)

def drawSources (sources : List Source) : Except Fault Text := do
  (← finished (Diagram.create true sources {})).renderStandard true

def Workload.answers (read : Text → Source) (n runs : Nat) (w : Workload) :
    Except Fault (List Answer) :=
  match w with
  | .relations => do
    let d ← finished (({} : Diagram).add [read (chain n), read nested])
    answersOf countLinks runs d
  | .parts => do
    let d ← finished (Diagram.create true [read (chain n), read nested] {})
    if d.objects.isEmpty then .error .noObjects
    else
      let answer ← drawParts d
      return List.replicate runs (.text answer)
  | .drawing => do
    let d ← finished (Diagram.Result.andThen (Diagram.create true [read nested] {})
      fun d => d.add [read (chain n)])
    let answer ← d.sort.renderStandard true
    return List.replicate runs (.text answer)
  | .pipeline => do
    let big := read (chain n ++ nested)
    let _ ← drawSources [read small]
    let _ ← drawSources [read small, read small]
    let _ ← drawSources [big]
    answersOf (fun _ => do return (← overview big (read small), ())) runs ()

end ClassDiagram.Sample
