import ClassDiagram.Proofs.Diagram.Grounding
import ClassDiagram.Proofs.Forest.Shape
import Mathlib.Data.List.Induction

/-!
# Links and blocks agree after every history

The end of a link is written with its namespace in front, with dots between the components. The
container that it stands for is drawn inside blocks, each headed by the last component of its name.
A diagram is grounded after every history, so there is such a container, and the names in the
headings of the blocks around it, from the outermost in, are the components that the link shows.
-/
namespace ClassDiagram
open Text

/-- The name in the heading of a block as drawn. -/
def Tree.printedName (name : Option Text) : Text := Namespace.heading (Tree.shownName name)

/-- The headings of the blocks of a path show its components. -/
theorem Forest.map_printedName_chain {ns : Text} {path : List Text}
    (h : path <+: Namespace.parts ns) : (chain path).map Tree.printedName = path := by
  induction path using List.reverseRecOn with
  | nil => rfl
  | append_singleton path w ih =>
    have hcut : (qualify (path ++ [w])).components = path ++ [w] :=
      components_qualify_of_isPrefix_parts (by simp) h
    have hlast : Tree.printedName (some (qualify (path ++ [w]))) = w := by
      simp [Tree.printedName, Tree.shownName, Namespace.heading, hcut]
    rw [chain_concat, List.map_append, List.map_singleton, hlast,
      ih ((List.prefix_append path [w]).trans h)]

namespace Endpoint

/-- The name of an end as it is written behind its namespace. -/
def ownName (dots : Bool) (e : Endpoint) : Text :=
  if e.ns ≠ [] ∧ dots then Namespace.dotted e.name else e.name

/-- A name with those of the blocks around it in front, and dots between them. -/
def insideBlocks (blocks : List Text) (name : Text) : Text :=
  if blocks = [] then name else joinWith ['.'] blocks ++ '.' :: name

theorem render_eq (dots : Bool) (e : Endpoint) :
    e.render dots = insideBlocks (Namespace.parts e.ns) (e.ownName dots) := by
  by_cases hns : e.ns = []
  · simp [render, insideBlocks, ownName, Namespace.parts, hns]
  · simp [render, insideBlocks, ownName, Namespace.parts, Namespace.dotted, hns, components_ne_nil]

end Endpoint

/-- A container is drawn once, inside blocks whose headings are the ones that a link to it shows. -/
theorem Forest.container_in_blocks {objects : List Container} {c : Container} (hc : c ∈ objects)
    (dots : Bool) :
    ∃ around, (around, c) ∈ Tree.leavesAll [] (ofObjects objects) ∧
      (∀ other, (other, c) ∈ Tree.leavesAll [] (ofObjects objects) → other = around) ∧
      (around = [] ↔ c.ns = []) ∧
      c.endpoint.render dots =
        Endpoint.insideBlocks (around.map Tree.printedName) (c.endpoint.ownName dots) := by
  have hleaves : ∀ other, (other, c) ∈ Tree.leavesAll [] (ofObjects objects) ↔
      chain (Namespace.parts c.ns) = other := by
    intro other
    rw [(leaves_ofObjects_perm objects).mem_iff, List.mem_map]
    constructor
    · rintro ⟨d, -, hd⟩
      obtain ⟨rfl, rfl⟩ := Prod.mk.inj hd
      rfl
    · rintro rfl
      exact ⟨c, hc, rfl⟩
  refine ⟨chain (Namespace.parts c.ns), (hleaves _).2 rfl,
    fun other h => ((hleaves other).1 h).symm, ?_, ?_⟩
  · by_cases hns : c.ns = []
    · simp [Namespace.parts, hns]
    · simp [Namespace.parts, hns, chain, components_ne_nil]
  · rw [map_printedName_chain (List.prefix_refl _), Endpoint.render_eq]
    rfl

namespace Diagram

def links (d : Diagram) : List Link := d.inheritance ++ d.aggregation ++ d.dependency ++ d.nesting

theorem Grounded.joins {d : Diagram} (h : d.Grounded) {l : Link} (hl : l ∈ d.links) :
    l.Joins d.objects := by
  simp only [links, List.mem_append] at hl
  rcases hl with ((hl | hl) | hl) | hl
  · exact h.inheritance l hl
  · exact h.aggregation l hl
  · exact h.dependency l hl
  · exact h.nesting l hl

/-- A history with a fault, and a namespace with an empty component. -/
def interrupted : List Command :=
  [.add [.ok (.ofClass "A".toList "a::::b".toList [] []),
      .ok (.ofClass "B".toList [] ["a::::b::A".toList] []), .error .noObjects],
    .buildInheritance]

/-- After every history both ends of each link are containers of the diagram, and they are written
with the headings of the blocks inside which those containers are drawn. -/
theorem ends_lie_in_blocks (withDependencies : Bool) (commands : List Command) {l : Link}
    (hl : l ∈ (afterCommands withDependencies commands).links) {e : Endpoint}
    (he : e = l.parent ∨ e = l.child) :
    (∃ c ∈ (afterCommands withDependencies commands).objects, c.endpoint = e) ∧
    ∀ c ∈ (afterCommands withDependencies commands).objects, c.endpoint = e →
      ∃ around,
        (around, c) ∈ Tree.leavesAll []
          (Forest.ofObjects (afterCommands withDependencies commands).objects) ∧
        (∀ other, (other, c) ∈ Tree.leavesAll []
          (Forest.ofObjects (afterCommands withDependencies commands).objects) → other = around) ∧
        (around = [] ↔ e.ns = []) ∧
        e.render l.dots =
          Endpoint.insideBlocks (around.map Tree.printedName) (e.ownName l.dots) := by
  have hjoins := (grounded_afterCommands withDependencies commands).joins hl
  refine ⟨?_, fun c hc hce => ?_⟩
  · rcases he with rfl | rfl
    · exact List.mem_map.1 hjoins.1
    · exact List.mem_map.1 hjoins.2
  · subst hce
    exact Forest.container_in_blocks hc l.dots

theorem ends_lie_in_blocks_interrupted :
    ∃ c around, (around, c) ∈ Tree.leavesAll []
        (Forest.ofObjects (afterCommands false interrupted).objects) ∧
      c.endpoint = ⟨"A".toList, "a::::b".toList⟩ ∧
      c.endpoint.render false =
        Endpoint.insideBlocks (around.map Tree.printedName) (c.endpoint.ownName false) := by
  have hl : Link.inherits ⟨"A".toList, "a::::b".toList⟩ ⟨"B".toList, []⟩ ∈
      (afterCommands false interrupted).links := by decide +kernel
  obtain ⟨⟨c, hc, hce⟩, hall⟩ := ends_lie_in_blocks false interrupted hl (.inl rfl)
  obtain ⟨around, hleaf, -, -, hrender⟩ := hall c hc hce
  exact ⟨c, around, hleaf, hce, hce ▸ hrender⟩

end Diagram

end ClassDiagram
