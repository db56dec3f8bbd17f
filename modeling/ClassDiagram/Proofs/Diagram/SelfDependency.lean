import ClassDiagram.Proofs.Diagram.DependencySection
import ClassDiagram.Proofs.Diagram.Mentions

/-!
# Classes that depend on themselves

A class does not depend on itself for a parameter whose type is written exactly like its name. Any
other way to write its own type goes through the look-up like all types, and if the look-up comes
back to the class, the class gets a link to itself. So a copy constructor gives such a link: its
parameter is a `const A&` and not an `A`.

`mem_dependency_iff` gives the links of all parameters, and `self_mem_dependency_iff` those that come
back.
-/
namespace ClassDiagram
open Text

/-- The name of a container, or its qualified name, is found in a text. -/
def Container.OccursIn (c : Container) (t : Text) : Prop :=
  ∃ name i, (name = c.name ∨ name = c.qualifiedName) ∧ Resolve.occurrence name t = .ok (some i)

namespace Resolve
variable {written : Text}

theorem exists_occurrence_of_compare {name : Text} (h : compare .word written name = .ok true) :
    ∃ i, occurrence name written = .ok (some i) := by
  obtain ⟨found, hfound, h⟩ := bind_eq_ok_iff.1 h
  obtain ⟨i, rfl⟩ := Option.isSome_iff_exists.1 (Except.ok.inj h)
  exact ⟨i, hfound⟩

theorem occursIn_of_isCandidate {scope : List Text} {c : Container}
    (h : isCandidate .word written scope c = .ok true) : c.OccursIn written := by
  unfold isCandidate at h
  split at h
  · simp at h
  · obtain ⟨found, hfound, h⟩ := bind_eq_ok_iff.1 h
    cases found with
    | true =>
      obtain ⟨i, hi⟩ := exists_occurrence_of_compare hfound
      exact ⟨c.name, i, .inl rfl, hi⟩
    | false =>
      obtain ⟨i, hi⟩ := exists_occurrence_of_compare h
      exact ⟨c.qualifiedName, i, .inr rfl, hi⟩

end Resolve

theorem Container.OccursIn.congr {c p : Container} {t : Text} (h : p.OccursIn t)
    (hend : p.endpoint = c.endpoint) : c.OccursIn t := by
  obtain ⟨name, i, hname, hi⟩ := h
  rw [show p.name = c.name from congrArg Endpoint.name hend,
    Container.qualifiedName_congr hend] at hname
  exact ⟨name, i, hname, hi⟩

/-- Whatever the containers are called, a class that depends on itself has a parameter of another
type than its own name, in which it occurs. -/
theorem Relations.exists_occursIn_of_self {objects : List Container} {l : Link}
    (h : l ∈ (dependency objects).1) (hself : l.parent = l.child) :
    ∃ c ∈ objects, l = Link.depends c.endpoint c.endpoint ∧
      ∃ type ∈ c.parameterTypes, type ≠ c.name ∧ c.OccursIn (lookedUp type) := by
  obtain ⟨c, hc, type, htype, hne, p, hp, rfl⟩ := exists_resolve_of_mem_dependency h
  have hend : p.endpoint = c.endpoint := hself
  obtain ⟨scope, cs, hcs, hmem⟩ := Resolve.exists_candidates_of_outward hp
  have hcandidate := Resolve.isCandidate_of_mem_candidates hcs hmem
  refine ⟨c, hc, by rw [hend], type, htype, hne, ?_⟩
  exact (Resolve.occursIn_of_isCandidate hcandidate).congr hend

namespace Diagram
variable {d : Diagram}

/-- The dependency links join each class and the leftmost containers of the types of its parameters,
those that are written like its name left out. -/
theorem mem_dependency_iff (hnamed : ∀ c ∈ d.objects, c.IsNamed) {l : Link} :
    l ∈ (Relations.dependency d.objects).1 ↔
      ∃ c ∈ d.objects, ∃ type ∈ c.parameterTypes, type ≠ c.name ∧
        ∃ p, d.IsLeftmost (lookedUp type) (lookupPath type c.scope) p ∧
          l = Link.depends p.endpoint c.endpoint := by
  rw [Relations.dependency_eq hnamed, List.mem_flatMap]
  refine exists_congr fun c => and_congr_right fun hc => ?_
  have hfound : ∀ type, (∃ e, endpointOf .word type c.innerScope d.objects = some e ∧
      Link.depends e c.endpoint = l) ↔
      ∃ p, d.IsLeftmost (lookedUp type) (lookupPath type c.scope) p ∧
        l = Link.depends p.endpoint c.endpoint := by
    intro type
    rw [Container.innerScope_eq_scope (hnamed c hc)]
    simp only [endpointOf_word_eq_some_iff hnamed]
    constructor
    · rintro ⟨_, ⟨p, hp, rfl⟩, rfl⟩
      exact ⟨p, hp, rfl⟩
    · rintro ⟨p, hp, rfl⟩
      exact ⟨_, ⟨p, hp, rfl⟩, rfl⟩
  simp only [Relations.dependencyOf, Container.parameterTypes, List.mem_flatMap, List.mem_filterMap,
    List.mem_map]
  constructor
  · rintro ⟨o, ho, parameter, hparameter, h⟩
    split at h
    · simp at h
    · rename_i hne
      obtain ⟨e, he⟩ := Option.map_eq_some_iff.1 h
      exact ⟨parameter.type, ⟨o, ho, parameter, hparameter, rfl⟩, hne, (hfound _).1 ⟨e, he⟩⟩
  · rintro ⟨_, ⟨o, ho, parameter, hparameter, rfl⟩, hne, h⟩
    refine ⟨o, ho, parameter, hparameter, ?_⟩
    rw [if_neg hne]
    exact Option.map_eq_some_iff.2 ((hfound _).2 h)

theorem self_mem_dependency_iff (hnamed : ∀ c ∈ d.objects, c.IsNamed) {e : Endpoint} :
    Link.depends e e ∈ (Relations.dependency d.objects).1 ↔
      ∃ c ∈ d.objects, c.endpoint = e ∧ ∃ type ∈ c.parameterTypes, type ≠ c.name ∧
        d.IsLeftmost (lookedUp type) (lookupPath type c.scope) c := by
  rw [mem_dependency_iff hnamed]
  constructor
  · rintro ⟨c, hc, type, htype, hne, p, hp, hlink⟩
    have hpend : e = p.endpoint := congrArg Link.parent hlink
    have hcend : e = c.endpoint := congrArg Link.child hlink
    exact ⟨c, hc, hcend.symm, type, htype, hne, hp.congr hc (hcend.symm.trans hpend)⟩
  · rintro ⟨c, hc, rfl, type, htype, hne, hleft⟩
    exact ⟨c, hc, type, htype, hne, c, hleft, rfl⟩

/-- In a type without `::`, a container is leftmost if of its scope it is the only one there. -/
theorem isLeftmost_of_sole {c : Container} (hc : c ∈ d.objects) {type : Text}
    (htype : ¬ colons <:+: type) (hstands : ∃ i, Pattern.wordAt c.name type i = true)
    (hsole : ∀ o ∈ d.objects, o.scope = c.scope → (∃ i, Pattern.wordAt o.name type i = true) →
      o.name = c.name) :
    d.IsLeftmost (lookedUp type) (lookupPath type c.scope) c := by
  rw [lookedUp_of_not_colons htype, lookupPath_of_not_colons htype]
  refine ⟨hc, List.prefix_rfl, hstands, fun o _ hscope _ => hscope.length_le,
    fun o ho hscope i hi => ⟨i, Nat.le_refl i, ?_⟩⟩
  exact hsole o ho hscope ⟨i, hi⟩ ▸ hi

/-- A class depends on itself only because of a parameter whose type is not its name but holds it.
Among containers named by identifiers it does so exactly if it is the leftmost container of such a
type. In particular it does for every type without `::` in which its name stands as a whole word, if
no other name of its scope stands there. -/
theorem buildDependency_self (d : Diagram) :
    (∀ l ∈ d.buildDependency.1.dependency, l.parent = l.child →
      ∃ c ∈ d.objects, l = Link.depends c.endpoint c.endpoint ∧
        ∃ type ∈ c.parameterTypes, type ≠ c.name ∧ c.OccursIn (lookedUp type)) ∧
    ((∀ c ∈ d.objects, c.IsNamed) →
      d.buildDependency.2 = none ∧
      (∀ e, Link.depends e e ∈ d.buildDependency.1.dependency ↔
        ∃ c ∈ d.objects, c.endpoint = e ∧ ∃ type ∈ c.parameterTypes, type ≠ c.name ∧
          d.IsLeftmost (lookedUp type) (lookupPath type c.scope) c) ∧
      ∀ c ∈ d.objects, ∀ type ∈ c.parameterTypes, type ≠ c.name → ¬ colons <:+: type →
        (∃ i, Pattern.wordAt c.name type i = true) →
        (∀ o ∈ d.objects, o.scope = c.scope → (∃ i, Pattern.wordAt o.name type i = true) →
          o.name = c.name) →
        Link.depends c.endpoint c.endpoint ∈ d.buildDependency.1.dependency) := by
  refine ⟨fun l hl => Relations.exists_occursIn_of_self hl, fun hnamed => ?_⟩
  have hfault : d.buildDependency.2 = none := congrArg Prod.snd (Relations.dependency_eq hnamed)
  refine ⟨hfault, fun e => self_mem_dependency_iff hnamed, ?_⟩
  intro c hc type htype hne hcolons hstands hsole
  have hleft := isLeftmost_of_sole hc hcolons hstands hsole
  exact (self_mem_dependency_iff hnamed).2 ⟨c, hc, rfl, type, htype, hne, hleft⟩

/-- A class that takes itself, with another class as its template argument. -/
def lists : Diagram :=
  (({} : Diagram).add [.ok (.ofClass "Node".toList [] [] []),
    .ok (withMethodOn "const List<Node> &".toList (.ofClass "List".toList [] [] []))]).1

/-- Both classes stand in the type of the parameter, and the one that takes it stands leftmost. -/
theorem buildDependency_self_leftmost :
    lists.names = ["Node".toList, "List".toList] ∧ lists.buildDependency.2 = none ∧
      Link.depends ⟨"List".toList, []⟩ ⟨"List".toList, []⟩ ∈
        lists.buildDependency.1.dependency := by
  have hnamed : ∀ c ∈ lists.objects, c.IsNamed := by decide +kernel
  have hfound : endpointOf .word "const List<Node>&".toList [] lists.objects =
      some ⟨"List".toList, []⟩ := by decide +kernel
  obtain ⟨p, hp, hend⟩ := (endpointOf_word_eq_some_iff hnamed).1 hfound
  have htakes : ∃ c ∈ lists.objects, c.endpoint = ⟨"List".toList, []⟩ ∧ c.scope = [] ∧
      "const List<Node>&".toList ∈ c.parameterTypes ∧ "const List<Node>&".toList ≠ c.name := by
    decide +kernel
  obtain ⟨c, hc, hcend, hscope, htype, hne⟩ := htakes
  obtain ⟨hfault, hself, -⟩ := (buildDependency_self lists).2 hnamed
  refine ⟨by decide +kernel, hfault, (hself _).2 ⟨c, hc, hcend, _, htype, hne, ?_⟩⟩
  rw [hscope]
  exact hp.congr hc (hcend.trans hend.symm)

/-- A class that is declared with an operation on constant references to it depends on itself. -/
theorem buildDependency_self_copy :
    (buildDependency (({} : Diagram).add
      [.ok (withMethodOn "const A &".toList (.ofClass "A".toList [] [] []))]).1).1.dependency =
      [Link.depends ⟨"A".toList, []⟩ ⟨"A".toList, []⟩] := by
  decide +kernel

end Diagram

end ClassDiagram
