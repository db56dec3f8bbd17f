import ClassDiagram.Diagram.Resolve
import ClassDiagram.Tally

/-!
# Relations between containers

The four lists of links that follow from a list of containers. Each is built in order up to the
first name that cannot be resolved; the links found before it stay.
-/
namespace ClassDiagram
open Text

namespace Relations

def collectLinks (attempts : List (Except Fault (Option Link))) : List Link × Option Fault :=
  let found := collect attempts
  (found.1.filterMap id, found.2)

def inheritanceAttempts (objects : List Container) : List (Except Fault (Option Link)) :=
  objects.flatMap fun c => c.bases.map fun base => do
    let found ← resolve .equal base c.innerScope objects
    return found.map fun p => Link.inherits p.endpoint c.endpoint

/-- A class depends on the containers that the parameters of its operations mention, unless the type
is written like the name of the class. -/
def dependencyAttempts (objects : List Container) : List (Except Fault (Option Link)) :=
  objects.flatMap fun c => c.operations.flatMap fun o => o.parameters.map fun p => do
    let found ← resolve .word p.type c.innerScope objects
    return if p.type = c.name then none else found.map fun d => Link.depends d.endpoint c.endpoint

def nestingAttempts (objects : List Container) : List (Except Fault (Option Link)) :=
  objects.map fun c =>
    match c.parent with
    | none => .ok none
    | some parent =>
      if parent = [] then .ok none
      else do
        let found ← resolve .word parent c.innerScope objects
        return found.map fun p => Link.nests p.endpoint c.endpoint

/-- The name under which a container is counted: its qualified name without empty components. -/
def countedName (c : Container) : Text := qualify (properComponents c.ns ++ properComponents c.name)

/-- What the type of an attribute of `c` mentions: held by pointer it is an aggregation, otherwise a
composition. -/
def mention (objects : List Container) (c : Container) (type : Text) :
    Except Fault (Option Mention) := do
  let found ← resolve .word type c.innerScope objects
  return found.map fun d =>
    { owner := countedName c
      target := countedName d
      kind := if TypeText.holdsPointerTo d.name type then .aggregation else .composition }

def mentionAttempts (objects : List Container) : List (Except Fault (Option Mention)) :=
  (objects.filter Container.isClass).flatMap fun c => c.attributeTypes.map (mention objects c)

def listed (objects : List Container) (name : Text) : Option Container :=
  objects.find? fun c => c.qualifiedName = name

/-- The two ends of a counted entry. An owner that is not listed stands for the pair before it. -/
def entryEnds (objects : List Container) (owner target : Text)
    (before : Option (Endpoint × Endpoint)) :
    Except Fault (Endpoint × Endpoint) :=
  match listed objects owner with
  | some c =>
    match listed objects target with
    | some d => .ok (c.endpoint, d.endpoint)
    | none => .error (.unlisted target)
  | none =>
    match before with
    | some ends => .ok ends
    | none => .error .unsetPair

def aggregationLinks (objects : List Container) :
    Option (Endpoint × Endpoint) → List (Text × Tally.Entry) → List Link × Option Fault
  | _, [] => ([], none)
  | before, (owner, e) :: r =>
    match entryEnds objects owner e.target before with
    | .error f => ([], some f)
    | .ok ends =>
      let rest := aggregationLinks objects (some ends) r
      (Link.aggregates ends.1 ends.2 e.count e.kind :: rest.1, rest.2)

def inheritance (objects : List Container) : List Link × Option Fault :=
  collectLinks (inheritanceAttempts objects)

def dependency (objects : List Container) : List Link × Option Fault :=
  collectLinks (dependencyAttempts objects)

def nesting (objects : List Container) : List Link × Option Fault :=
  collectLinks (nestingAttempts objects)

/-- The aggregation links. All types are resolved before the first link is made. -/
def aggregation (objects : List Container) : List Link × Option Fault :=
  let mentions := collect (mentionAttempts objects)
  match mentions.2 with
  | some f => ([], some f)
  | none => aggregationLinks objects none (Tally.ofMentions (mentions.1.filterMap id)).entries

end Relations

end ClassDiagram
