import ClassDiagram.Proofs.Diagram.Grounding
import ClassDiagram.Proofs.Diagram.Layout
import Mathlib.Data.List.Basic

/-!
# Dependencies add a section and nothing else

The flag for dependencies is used in two places: when links are built, after all others, and in the
standard template. The rest of a diagram and of its drawing is therefore the same with and without
the flag.
-/
namespace ClassDiagram.Diagram
open Text

section
variable (d : Diagram)

/-- Reading leaves the links as they are. -/
theorem readAll_dependency (sources : List Source) :
    (d.readAll sources).1.dependency = d.dependency := by
  induction sources generalizing d with
  | nil => rfl
  | cons s sources ih =>
    refine Result.andThen_keeps (P := fun e => e.dependency = d.dependency) ?_
      fun e he => (ih e).trans he
    cases s <;> rfl

theorem buildLinks_false_dependency : (d.buildLinks false).1.dependency = d.dependency := by
  refine Result.andThen_keeps (P := fun e => e.dependency = d.dependency) rfl fun e he => ?_
  refine Result.andThen_keeps (P := fun e => e.dependency = d.dependency) he fun e he => ?_
  exact Result.andThen_keeps (P := fun e => e.dependency = d.dependency) he fun e he => he

/-- Dependencies are built after all other links. -/
theorem buildLinks_true : d.buildLinks true = (d.buildLinks false).andThen buildDependency := by
  simp only [buildLinks, Result.andThen_assoc]
  rfl

end

theorem create_eq_andThen (withDependencies : Bool) (sources : List Source) (d : Diagram) :
    create withDependencies sources d =
      (readAll {} sources).andThen fun d =>
        (d.buildLinks withDependencies).andThen fun d => (d.sort, none) := rfl

/-- A diagram without its dependencies is what is created without the flag. -/
theorem create_false_eq {sources : List Source} {d e : Diagram}
    (h : create true sources d = (e, none)) (d' : Diagram) :
    create false sources d' = ({ e with dependency := [] }, none) := by
  rw [create_eq_andThen] at h
  obtain ⟨read, hread, h⟩ := Result.exists_of_andThen h
  obtain ⟨linked, hlinked, h⟩ := Result.exists_of_andThen h
  rw [buildLinks_true] at hlinked
  obtain ⟨plain, hplain, hlinked⟩ := Result.exists_of_andThen hlinked
  have hdependency : plain.dependency = [] := by
    have hstart := readAll_dependency {} sources
    have hkept := buildLinks_false_dependency read
    rw [hread] at hstart
    rw [hplain] at hkept
    exact hkept.trans hstart
  obtain rfl : { plain with dependency := (Relations.dependency plain.objects).1 } = linked :=
    (Prod.mk.inj hlinked).1
  obtain rfl := (Prod.mk.inj h).1
  rw [create_eq_andThen, hread]
  simp only [Result.andThen, hplain, sort, hdependency]
  rfl

def methodOn (type : Text) : Header.MethodDecl where
  name := some "run".toList
  static := some false
  returns := some "void".toList
  returnsPointer := some false
  returnsReference := some false
  pureVirtual := some false
  destructor := some false
  const := some false
  parameters := some [{ type := some type, name := some "x".toList }]
  deleted := false

def withMethodOn (type : Text) (h : Header) : Header :=
  { h with classes := h.classes.map fun (name, c) =>
      (name, { c with methods := some ⟨some [], some [methodOn type], some []⟩ }) }

/-- With dependencies, a diagram has the same containers and the same other links as without them,
and its drawing is the one without them with a section put in between those of the aggregations and
of the nestings. That section holds the drawings of the dependencies in the order of their list. -/
theorem dependencies_add_section (sources : List Source) (d d' e : Diagram) (text : Text)
    (hcreate : create true sources d = (e, none)) (hdraw : e.renderStandard true = .ok text) :
    create false sources d' = ({ e with dependency := [] }, none) ∧
      ∃ (s : Layout) (lines : List Text),
        e.Shows s ∧ e.dependency.mapM Link.render = .ok lines ∧
        renderStandard false { e with dependency := [] } = .ok (s.front ++ s.back) ∧
        text = s.front ++ Layout.dependencyText lines ++ s.back := by
  refine ⟨create_false_eq hcreate d', ?_⟩
  obtain ⟨s, hshows, hdependency, rfl⟩ := renderStandard_eq_ok_iff.1 hdraw
  cases hlines : e.dependency.mapM Link.render with
  | error f => simp [dependencyDrawings, hlines, Except.map] at hdependency
  | ok lines =>
    have hsome : some lines = s.dependency := by
      simpa [dependencyDrawings, hlines, Except.map] using hdependency
    refine ⟨s, lines, hshows, rfl, ?_, ?_⟩
    · rw [renderStandard_eq_ok_iff]
      refine ⟨{ s with dependency := none }, ?_, rfl, ?_⟩
      · exact ⟨hshows.objects, hshows.inheritance, hshows.aggregation, hshows.nesting⟩
      · exact congrArg (· ++ s.back) (List.append_nil s.front).symm
    · rw [Layout.text, ← hsome]
      rfl

/-- A class that owns a second one and needs a third one to run. -/
def carSources : List Source :=
  [.ok (withMethodOn "Fuel".toList (.ofClass "Car".toList [] [] ["Engine*".toList])),
    .ok (.ofClass "Fuel".toList [] [] []), .ok (.ofClass "Engine".toList [] [] [])]

theorem dependencies_add_section_car :
    ∃ (e : Diagram) (s : Layout), create true carSources {} = (e, none) ∧
      create false carSources {} = ({ e with dependency := [] }, none) ∧
      s.aggregation = ["Car o-- Engine\n".toList] ∧
      renderStandard false { e with dependency := [] } = .ok (s.front ++ s.back) ∧
      renderStandard true e =
        .ok (s.front ++ Layout.dependencyText ["Fuel <.. Car\n".toList] ++ s.back) := by
  have hcreate : create true carSources {} = ((create true carSources {}).1, none) := by
    decide +kernel
  obtain ⟨text, hdraw⟩ : ∃ text, renderStandard true (create true carSources {}).1 = .ok text :=
    ⟨_, rfl⟩
  obtain ⟨hplain, s, lines, hshows, hlines, hdraw', rfl⟩ :=
    dependencies_add_section carSources {} {} _ text hcreate hdraw
  have haggregation : (create true carSources {}).1.aggregation.mapM Link.render =
      .ok ["Car o-- Engine\n".toList] := by decide +kernel
  have hdependency : (create true carSources {}).1.dependency.mapM Link.render =
      .ok ["Fuel <.. Car\n".toList] := by decide +kernel
  rw [hdependency, Except.ok.injEq] at hlines
  rw [hlines]
  refine ⟨_, s, hcreate, hplain, ?_, hdraw', hdraw⟩
  exact Except.ok.inj (hshows.aggregation.symm.trans haggregation)

end ClassDiagram.Diagram
