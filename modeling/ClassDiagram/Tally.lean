import ClassDiagram.Link

/-!
# Tallies

A tally counts how often a class mentions another one in a given way. Owners stand in the order of
their first mention, and so do the entries of each owner.
-/
namespace ClassDiagram

/-- One mention: a member of `owner` whose type is `target`. -/
structure Mention where
  owner : Text
  target : Text
  kind : LinkKind
  deriving DecidableEq, Repr

/-- How often an owner mentions a target in one way. -/
structure Tally.Entry where
  target : Text
  kind : LinkKind
  count : Nat
  deriving DecidableEq, Repr

abbrev Tally := List (Text × List Tally.Entry)

namespace Tally

def bump (target : Text) (kind : LinkKind) : List Entry → List Entry
  | [] => [⟨target, kind, 1⟩]
  | e :: r =>
    if e.target = target ∧ e.kind = kind then { e with count := e.count + 1 } :: r
    else e :: bump target kind r

def add (m : Mention) : Tally → Tally
  | [] => [(m.owner, bump m.target m.kind [])]
  | (owner, entries) :: r =>
    if owner = m.owner then (owner, bump m.target m.kind entries) :: r
    else (owner, entries) :: add m r

def ofMentions (ms : List Mention) : Tally := ms.foldl (fun t m => add m t) []

def entries (t : Tally) : List (Text × Entry) :=
  t.flatMap fun (owner, es) => es.map fun e => (owner, e)

end Tally

end ClassDiagram
