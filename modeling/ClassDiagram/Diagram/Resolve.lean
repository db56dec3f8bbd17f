import ClassDiagram.Link

/-!
# Resolution of names

A written name is resolved among the containers of a diagram from a scope outwards. Its last
component is compared with the containers whose own scope is the scope in question extended by the
other components; if there is none, the last component of that scope is given up, and so on to the
outermost one. Among several candidates the one whose name occurs leftmost wins, and of those the
first.
-/
namespace ClassDiagram
open Text

namespace Container

/-- The scope in which a container is found: its qualified name without the last component. -/
def scope (c : Container) : List Text := c.qualifiedName.components.dropLast

def innerScope (c : Container) : List Text :=
  properComponents c.ns ++ (properComponents c.name).dropLast

end Container

inductive Comparison where
  | equal
  /-- The container's name occurs in the written one as a whole word. -/
  | word
  deriving DecidableEq, Repr

namespace Resolve

def occurrence (name t : Text) : Except Fault (Option Nat) :=
  (Pattern.occurrence name t).mapError .pattern

def compare (cmp : Comparison) (written candidate : Text) : Except Fault Bool :=
  match cmp with
  | .equal => .ok (written = candidate)
  | .word => return (← occurrence candidate written).isSome

/-- Whether a container is a candidate in a scope, by its name or its qualified name. -/
def isCandidate (cmp : Comparison) (written : Text) (scope : List Text) (c : Container) :
    Except Fault Bool := do
  if scope ≠ c.scope then return false
  if ← compare cmp written c.name then return true
  compare cmp written c.qualifiedName

def candidates (cmp : Comparison) (written : Text) (scope : List Text) :
    List Container → Except Fault (List Container)
  | [] => .ok []
  | c :: r => do
    let found ← isCandidate cmp written scope c
    let rest ← candidates cmp written scope r
    return if found then c :: rest else rest

def position (written : Text) (c : Container) : Except Fault Nat := do
  match ← occurrence c.name written with
  | none => .error .noOccurrence
  | some i => .ok i

def firstLeast {α : Type} : α × Nat → List (α × Nat) → α
  | best, [] => best.1
  | best, x :: r => firstLeast (if x.2 < best.2 then x else best) r

def choose (written : Text) : List Container → Except Fault (Option Container)
  | [] => .ok none
  | [c] => .ok (some c)
  | c :: d :: r => do
    let i ← position written c
    let rest ← (d :: r).mapM fun x => return (x, ← position written x)
    return some (firstLeast (c, i) rest)

/-- Searches the scope of the first `n` components and then the ones around it. -/
def outward (cmp : Comparison) (written : Text) (scope : List Text) (objects : List Container) :
    Nat → Except Fault (Option Container)
  | 0 => do choose written (← candidates cmp written [] objects)
  | n + 1 => do
    match ← candidates cmp written (scope.take (n + 1)) objects with
    | [] => outward cmp written scope objects n
    | cs => choose written cs

end Resolve

def resolve (cmp : Comparison) (name : Text) (scope : List Text) (objects : List Container) :
    Except Fault (Option Container) :=
  let parts := name.components
  let around := scope ++ parts.dropLast
  Resolve.outward cmp (parts.getLast?.getD []) around objects around.length

end ClassDiagram
