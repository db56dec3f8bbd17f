import ClassDiagram.Diagram.Render
import ClassDiagram.Proofs.Template.Listing

/-!
# The layout of a drawn diagram

The standard template draws a diagram as sections of containers and of links that stand in a fixed
order (`renderStandard_eq_ok_iff`). Each section has a title and the drawings of its elements with
line feeds around them. Only the section of dependencies is left out without its flag.
-/
namespace ClassDiagram
open Text Template

/-- The text of a section: some line feeds, a title and drawings. -/
def sectionText (lead heading : String) (texts : List Text) : Text :=
  lead.toList ++ title heading.toList ++ spaced texts ++ ['\n']

/-- The drawings in the sections of a diagram; there may be no section of dependencies. -/
structure Layout where
  objects : List Text
  inheritance : List Text
  aggregation : List Text
  dependency : Option (List Text)
  nesting : List Text

namespace Layout

/-- What stands in front of the section of dependencies, or would stand there. -/
def front (s : Layout) : Text :=
  "@startuml\n\n".toList ++ ['\n'] ++ "\n\n".toList
    ++ sectionText "\n" "Objects" s.objects ++ "\n\n".toList
    ++ sectionText "\n" "Inheritance relationships" s.inheritance ++ "\n\n".toList
    ++ sectionText "\n" "Aggregation relationships" s.aggregation ++ "\n".toList

/-- The section of dependencies with the line feeds around it. -/
def dependencyText (texts : List Text) : Text :=
  "\n".toList ++ sectionText "\n\n" "Dependency relationships" texts ++ "\n".toList

/-- What stands behind the section of dependencies. -/
def back (s : Layout) : Text :=
  "\n\n".toList ++ sectionText "\n" "Nested objects" s.nesting ++ "\n\n@enduml\n".toList

def text (s : Layout) : Text :=
  s.front ++ (s.dependency.map dependencyText).getD [] ++ s.back

end Layout

namespace Diagram

theorem drawing_treeElement (t : Tree) : (treeElement t).drawing = t.render := by
  cases t <;> simp [treeElement, Value.drawing, Tree.render]

theorem isElement_treeElement (t : Tree) : (treeElement t).IsElement := by
  cases t <;> exact ⟨_, _, _, by rw [treeElement]⟩

theorem mapM_drawing_treeElements (ts : List Tree) :
    (treeElements ts).mapM Value.drawing = Tree.renderAll ts := by
  induction ts with
  | nil => simp [treeElements, Tree.renderAll]
  | cons t ts ih =>
    rw [treeElements, List.mapM_cons, drawing_treeElement, ih, Tree.renderAll]

theorem isElement_of_mem_treeElements {ts : List Tree} {v : Value} (h : v ∈ treeElements ts) :
    v.IsElement := by
  induction ts with
  | nil => simp [treeElements] at h
  | cons t ts ih =>
    rw [treeElements] at h
    rcases List.mem_cons.1 h with rfl | h
    · exact isElement_treeElement t
    · exact ih h

theorem isElement_of_mem_links {kind : String} {links : List Link} {v : Value}
    (h : v ∈ links.map fun l =>
      .element ("Class".toList ++ kind.toList ++ "Relationship".toList) l.render none) :
    v.IsElement := by
  obtain ⟨l, -, rfl⟩ := List.mem_map.1 h
  exact ⟨_, _, _, rfl⟩

/-- The drawings of the dependencies, which are left out without the flag. -/
def dependencyDrawings (withDependencies : Bool) (d : Diagram) :
    Except Fault (Option (List Text)) :=
  if withDependencies then (d.dependency.mapM Link.render).map some else .ok none

/-- The sections of a diagram as drawn, or the first fault in drawing them. -/
def layout (withDependencies : Bool) (d : Diagram) : Except Fault Layout := do
  let objects ← Tree.renderAll (Forest.ofObjects d.objects)
  let inheritance ← d.inheritance.mapM Link.render
  let aggregation ← d.aggregation.mapM Link.render
  let dependency ← d.dependencyDrawings withDependencies
  let nesting ← d.nesting.mapM Link.render
  return { objects, inheritance, aggregation, dependency, nesting }

section
variable (withDependencies : Bool) (d : Diagram)

/-- Where the pieces of the standard template are drawn. -/
def standardScope : Scope :=
  Stage.scope (d.context withDependencies) standard.pieces ⟨standard.blocks, none⟩

theorem draw_standardBlock (name : Text) (body : List Piece) :
    Piece.draw (standardScope withDependencies d) (.block name false body) =
      drawBlock standard.blocks (49 + 1) (d.context withDependencies) name 0 := by
  rw [Piece.draw]
  rfl

theorem draw_objects :
    Piece.draw (standardScope withDependencies d)
        (listingBlock "objects".toList "\n".toList "Objects".toList "object".toList
          "objects".toList) =
      (Tree.renderAll (Forest.ofObjects d.objects)).map (sectionText "\n" "Objects") := by
  rw [← mapM_drawing_treeElements, listingBlock, draw_standardBlock]
  exact drawBlock_listing "objects".toList rfl (by decide) rfl
    (fun v hv => isElement_of_mem_treeElements hv) 49

theorem draw_links (name lead heading listing : String) {kind : String} {links : List Link}
    (hbody : layers standard.blocks name.toList =
      [[.text (lead.toList ++ title heading.toList), elements "link".toList listing.toList,
        .text ['\n']]])
    (hname : listing.toList ∉ ["super".toList, "self".toList])
    (hlisting : d.context withDependencies listing.toList = some (linkListing kind links)) :
    Piece.draw (standardScope withDependencies d)
        (listingBlock name.toList lead.toList heading.toList "link".toList listing.toList) =
      (links.mapM Link.render).map (sectionText lead heading) := by
  rw [listingBlock, draw_standardBlock, drawBlock_listing listing.toList hbody hname hlisting
    (fun v hv => isElement_of_mem_links hv) 49, List.mapM_map]
  rfl

/-- The section of dependencies is there under its flag only. -/
theorem draw_dependencies :
    Piece.draw (standardScope withDependencies d) (.onlyIf (.name dependencyFlag) [
        .text "\n".toList,
        listingBlock "dependency".toList "\n\n".toList "Dependency relationships".toList
          "link".toList "dependency_list".toList,
        .text "\n".toList] []) =
      (d.dependencyDrawings withDependencies).map fun texts? =>
        (texts?.map Layout.dependencyText).getD [] := by
  have hflag : (standardScope withDependencies d).value dependencyFlag =
      .constant (.flag withDependencies) := value_eq_of_context rfl rfl rfl
  rw [draw_underFlag rfl hflag]
  cases withDependencies with
  | false => rfl
  | true =>
    have hdependency := draw_links true d "dependency" "\n\n" "Dependency relationships"
      "dependency_list" rfl (by decide) rfl
    rw [if_pos rfl, hdependency, dependencyDrawings]
    cases d.dependency.mapM Link.render <;> rfl

/-- The standard template draws the sections of a diagram one after the other. -/
theorem renderStandard_eq :
    d.renderStandard withDependencies = (d.layout withDependencies).map Layout.text := by
  have htext : ∀ t, Piece.draw (standardScope withDependencies d) (.text t) = .ok t := draw_text rfl
  have hpreamble : Piece.draw (standardScope withDependencies d)
      (.block "preamble".toList false [.text ['\n']]) = .ok ['\n'] := rfl
  have hinheritance := draw_links withDependencies d "inheritance" "\n"
    "Inheritance relationships" "inheritance_list" rfl (by decide) rfl
  have haggregation := draw_links withDependencies d "aggregation" "\n"
    "Aggregation relationships" "aggregation_list" rfl (by decide) rfl
  have hnesting := draw_links withDependencies d "nested" "\n" "Nested objects" "nesting_list" rfl
    (by decide) rfl
  rw [renderStandard, draw_eq_mapM _ _ rfl]
  change (standard.pieces.mapM (Piece.draw (standardScope withDependencies d))).map List.flatten = _
  simp only [standard, List.mapM_cons, List.mapM_nil, htext, hpreamble, draw_objects, hinheritance,
    haggregation, draw_dependencies, hnesting, ok_bind]
  rw [layout]
  generalize Tree.renderAll (Forest.ofObjects d.objects) = objects?,
    d.inheritance.mapM Link.render = inheritance?, d.aggregation.mapM Link.render = aggregation?,
    d.dependencyDrawings withDependencies = dependency?, d.nesting.mapM Link.render = nesting?
  obtain f | objects := objects?
  · rfl
  obtain f | inheritance := inheritance?
  · rfl
  obtain f | aggregation := aggregation?
  · rfl
  obtain f | dependency := dependency?
  · rfl
  obtain f | nesting := nesting?
  · rfl
  unfold Layout.text Layout.front Layout.back
  simp only [Except.map, ok_bind, pure_eq_ok, List.flatten_cons, List.flatten_nil, List.append_nil,
    List.append_assoc]

end

/-- The drawings in sections are those of a diagram. -/
structure Shows (d : Diagram) (s : Layout) : Prop where
  objects : Tree.renderAll (Forest.ofObjects d.objects) = .ok s.objects
  inheritance : d.inheritance.mapM Link.render = .ok s.inheritance
  aggregation : d.aggregation.mapM Link.render = .ok s.aggregation
  nesting : d.nesting.mapM Link.render = .ok s.nesting

theorem layout_eq_ok_iff {withDependencies : Bool} {d : Diagram} {s : Layout} :
    d.layout withDependencies = .ok s ↔
      d.Shows s ∧ d.dependencyDrawings withDependencies = .ok s.dependency := by
  simp only [layout, bind_eq_ok_iff, pure_eq_ok, Except.ok.injEq]
  constructor
  · rintro ⟨_, ho, _, hi, _, ha, _, hd, _, hn, rfl⟩
    exact ⟨⟨ho, hi, ha, hn⟩, hd⟩
  · rintro ⟨h, hd⟩
    exact ⟨_, h.objects, _, h.inheritance, _, h.aggregation, _, hd, _, h.nesting, rfl⟩

/-- A diagram is drawn as the text of its sections. -/
theorem renderStandard_eq_ok_iff {withDependencies : Bool} {d : Diagram} {text : Text} :
    d.renderStandard withDependencies = .ok text ↔
      ∃ s, d.Shows s ∧ d.dependencyDrawings withDependencies = .ok s.dependency ∧
        text = s.text := by
  rw [renderStandard_eq]
  constructor
  · intro h
    cases hs : d.layout withDependencies with
    | error f => simp [hs, Except.map] at h
    | ok s =>
      obtain ⟨hshows, hdependency⟩ := layout_eq_ok_iff.1 hs
      refine ⟨s, hshows, hdependency, ?_⟩
      simpa [hs, Except.map, eq_comm] using h
  · rintro ⟨s, hshows, hdependency, rfl⟩
    rw [layout_eq_ok_iff.2 ⟨hshows, hdependency⟩]
    rfl

end Diagram

end ClassDiagram
