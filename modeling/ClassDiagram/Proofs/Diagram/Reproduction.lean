import ClassDiagram.Diagram.Render
import ClassDiagram.Proofs.Diagram.Arrangement
import ClassDiagram.Proofs.Diagram.Grounding
import ClassDiagram.Proofs.Text.Sorting

/-!
# Drawings do not depend on the order of the headers

A diagram of several headers has the containers and links in the order in which they were found
until they are sorted. The sort keys leave out the namespaces and the numbers of links. If the
containers have names of their own, then the names in a key fix the containers, and those fix the
rest: no two containers and no two links of a list have the same key, so the sorted lists are the
same for every order of the headers.
-/
namespace ClassDiagram
open Text Relations

/-- Containers named by identifiers, each by a name and a qualified name of its own. -/
structure Distinct (objects : List Container) : Prop where
  named : ∀ c ∈ objects, c.IsNamed
  names : (objects.map Container.name).Nodup
  qualifiedNames : (objects.map Container.qualifiedName).Nodup

instance (objects : List Container) : Decidable (Distinct objects) :=
  decidable_of_iff ((∀ c ∈ objects, c.IsNamed) ∧ (objects.map Container.name).Nodup ∧
    (objects.map Container.qualifiedName).Nodup)
    ⟨fun ⟨h, h', h''⟩ => ⟨h, h', h''⟩, fun h => ⟨h.named, h.names, h.qualifiedNames⟩⟩

namespace Distinct
variable {objects objects' : List Container}

theorem eq_of_name (h : Distinct objects) {c d : Container} (hc : c ∈ objects) (hd : d ∈ objects)
    (hname : c.name = d.name) : c = d := List.inj_on_of_nodup_map h.names hc hd hname

theorem perm (h : Distinct objects) (hperm : objects.Perm objects') : Distinct objects' where
  named c hc := h.named c (hperm.mem_iff.2 hc)
  names := (hperm.map _).nodup_iff.1 h.names
  qualifiedNames := (hperm.map _).nodup_iff.1 h.qualifiedNames

theorem sortBy_objects (h : Distinct objects) (hperm : objects.Perm objects') :
    sortBy Container.key objects = sortBy Container.key objects' := by
  refine sortBy_eq_of_perm Container.key hperm fun c hc d hd hkey => h.eq_of_name hc hd ?_
  simpa [Container.key] using (List.cons.inj hkey).2

/-- Links that are made of their two ends alone are fixed by the names of those. -/
theorem sortBy_links (h : Distinct objects) (make : Endpoint → Endpoint → Link)
    (hparent : ∀ p c, (make p c).parent = p) (hchild : ∀ p c, (make p c).child = c)
    {links links' : List Link} (hperm : links.Perm links')
    (hlinks : ∀ l ∈ links, ∃ p ∈ objects, ∃ c ∈ objects, l = make p.endpoint c.endpoint) :
    sortBy Link.key links = sortBy Link.key links' := by
  refine sortBy_eq_of_perm Link.key hperm fun l hl l' hl' hkey => ?_
  obtain ⟨p, hp, c, hc, rfl⟩ := hlinks l hl
  obtain ⟨p', hp', c', hc', rfl⟩ := hlinks l' hl'
  simp only [Link.key, hparent, hchild, List.cons.injEq] at hkey
  rw [h.eq_of_name hp hp' hkey.1, h.eq_of_name hc hc' hkey.2.1]

theorem sortBy_inheritance (h : Distinct objects) (hperm : objects.Perm objects') :
    sortBy Link.key (inheritance objects).1 = sortBy Link.key (inheritance objects').1 := by
  refine h.sortBy_links Link.inherits (fun _ _ => rfl) (fun _ _ => rfl) ?_
    fun l hl => exists_of_mem_inheritance hl
  rw [inheritance_eq h.named, inheritance_eq (h.perm hperm).named]
  exact (Rearranged.of_perm hperm).inheritance_perm h.named

theorem sortBy_dependency (h : Distinct objects) (hperm : objects.Perm objects') :
    sortBy Link.key (dependency objects).1 = sortBy Link.key (dependency objects').1 := by
  refine h.sortBy_links Link.depends (fun _ _ => rfl) (fun _ _ => rfl) ?_
    fun l hl => exists_of_mem_dependency hl
  rw [dependency_eq h.named, dependency_eq (h.perm hperm).named]
  exact (Rearranged.of_perm hperm).dependency_perm h.named

theorem sortBy_nesting (h : Distinct objects) (hperm : objects.Perm objects') :
    sortBy Link.key (nesting objects).1 = sortBy Link.key (nesting objects').1 := by
  refine h.sortBy_links Link.nests (fun _ _ => rfl) (fun _ _ => rfl) ?_
    fun l hl => exists_of_mem_nesting hl
  rw [nesting_eq h.named, nesting_eq (h.perm hperm).named]
  exact (Rearranged.of_perm hperm).nesting_perm h.named

theorem identified (h : Distinct objects) : Identified objects := ⟨h.named, h.qualifiedNames⟩

/-- An entry is fixed by the names of its ends and the label of its kind. -/
theorem entry_eq (h : Distinct objects) {x y : Text × Tally.Entry}
    (hx : x ∈ (Tally.ofMentions (objects.flatMap (mentionsOf objects))).entries)
    (hy : y ∈ (Tally.ofMentions (objects.flatMap (mentionsOf objects))).entries)
    (hkey : (entryLink objects x).key = (entryLink objects y).key) : x = y := by
  obtain ⟨howner, htarget, hkind⟩ := entries_spec hx
  obtain ⟨howner', htarget', hkind'⟩ := entries_spec hy
  obtain ⟨c, hc, -, hcend, hcname⟩ := Relations.listedEnd_eq howner
  obtain ⟨d, hd, -, hdend, hdname⟩ := Relations.listedEnd_eq htarget
  obtain ⟨c', hc', -, hcend', hcname'⟩ := Relations.listedEnd_eq howner'
  obtain ⟨d', hd', -, hdend', hdname'⟩ := Relations.listedEnd_eq htarget'
  rw [entryLink, entryLink, hcend, hdend, hcend', hdend'] at hkey
  obtain ⟨hparent, hchild, hlabel⟩ :
      c.name = c'.name ∧ d.name = d'.name ∧ x.2.kind.label = y.2.kind.label := by
    simpa [Link.key, Link.aggregates, Container.endpoint] using hkey
  have hownerEq : x.1 = y.1 := by rw [← hcname, ← hcname', h.eq_of_name hc hc' hparent]
  have htargetEq : x.2.target = y.2.target := by
    rw [← hdname, ← hdname', h.eq_of_name hd hd' hchild]
  have hkindEq : x.2.kind = y.2.kind := by
    rcases hkind with hkind | hkind <;> rcases hkind' with hkind' | hkind' <;>
      rw [hkind, hkind'] at hlabel ⊢ <;> exact absurd hlabel (by decide)
  exact Tally.eq_of_mem_entries hx hy hownerEq htargetEq hkindEq

theorem sortBy_aggregation (h : Distinct objects) (hperm : objects.Perm objects') :
    sortBy Link.key (aggregation objects).1 = sortBy Link.key (aggregation objects').1 := by
  have hlinks := h.identified.aggregation_perm (.of_perm hperm)
  refine sortBy_eq_of_perm Link.key hlinks fun l hl l' hl' hkey => ?_
  rw [aggregation_eq h.named] at hl hl'
  obtain ⟨x, hx, rfl⟩ := List.mem_map.1 hl
  obtain ⟨y, hy, rfl⟩ := List.mem_map.1 hl'
  rw [h.entry_eq hx hy hkey]

end Distinct

namespace Diagram

/-- Headers without a fault are read completely. -/
theorem readAll_eq {headers : List Header} (h : ∀ x ∈ headers, x.objects.2 = none) (d : Diagram) :
    d.readAll (headers.map .ok) =
      ({ d with objects := d.objects ++ headers.flatMap fun x => x.objects.1 }, none) := by
  induction headers generalizing d with
  | nil => simp [readAll]
  | cons x headers ih =>
    have hx := h x (by simp)
    simp [readAll, read, Result.andThen, hx, ih fun y hy => h y (by simp [hy])]

theorem add_eq {headers : List Header} (hread : ∀ x ∈ headers, x.objects.2 = none) (d : Diagram) :
    add (headers.map .ok) d =
      ({ d with objects := d.objects ++ headers.flatMap fun x => x.objects.1 }, none) := by
  simp only [add, build, Bool.false_eq_true, if_false, readAll_eq hread, Result.andThen]

/-- The containers with all links between them. -/
def linked (withDependencies : Bool) (objects : List Container) : Diagram :=
  { objects
    inheritance := (Relations.inheritance objects).1
    aggregation := (Relations.aggregation objects).1
    nesting := (Relations.nesting objects).1
    dependency := if withDependencies then (Relations.dependency objects).1 else [] }

/-- A diagram of headers without a fault whose containers are named by identifiers. -/
theorem create_eq (withDependencies : Bool) {headers : List Header} (d : Diagram)
    (hread : ∀ x ∈ headers, x.objects.2 = none)
    (hnamed : ∀ c ∈ headers.flatMap fun x => x.objects.1, c.IsNamed) :
    create withDependencies (headers.map .ok) d =
      ((linked withDependencies (headers.flatMap fun x => x.objects.1)).sort, none) := by
  have hlinks := buildLinks_eq withDependencies
    (d := { objects := headers.flatMap fun x => x.objects.1 }) hnamed
  simp only [create, build, if_true, readAll_eq hread, Result.andThen, List.nil_append, hlinks]
  rfl

theorem linked_sort_eq (withDependencies : Bool) {objects objects' : List Container}
    (h : Distinct objects) (hperm : objects.Perm objects') :
    (linked withDependencies objects).sort = (linked withDependencies objects').sort := by
  have hdependency : sortBy Link.key (linked withDependencies objects).dependency =
      sortBy Link.key (linked withDependencies objects').dependency := by
    cases withDependencies with
    | true => exact h.sortBy_dependency hperm
    | false => rfl
  rw [sort, sort, hdependency]
  simp only [linked, h.sortBy_objects hperm, h.sortBy_inheritance hperm,
    h.sortBy_aggregation hperm, h.sortBy_nesting hperm]

/-- The text of the diagram of some headers, drawn with the standard template. -/
def drawn (withDependencies : Bool) (headers : List Header) (d : Diagram) : Except Fault Text :=
  match create withDependencies (headers.map .ok) d with
  | (_, some f) => .error f
  | (d, none) => d.renderStandard withDependencies

/-- Headers in another order are drawn as the same text, or fail to be drawn for the same reason, if
they are read without a fault and their containers can be told apart by name. -/
theorem drawn_eq_of_perm (withDependencies : Bool) {headers headers' : List Header} (d d' : Diagram)
    (hperm : headers.Perm headers') (hread : ∀ x ∈ headers, x.objects.2 = none)
    (hdistinct : Distinct (headers.flatMap fun x => x.objects.1)) :
    drawn withDependencies headers d = drawn withDependencies headers' d' := by
  have hobjects := hperm.flatMap_right fun x : Header => x.objects.1
  have hread' : ∀ x ∈ headers', x.objects.2 = none := fun x hx => hread x (hperm.mem_iff.2 hx)
  have hdistinct' := hdistinct.perm hobjects
  rw [drawn, drawn, create_eq withDependencies d hread hdistinct.named,
    create_eq withDependencies d' hread' hdistinct'.named,
    linked_sort_eq withDependencies hdistinct hobjects]

/-- The text of a class that inherits from another and holds it twice, and is held by it. -/
def mutualText : Text :=
  ("@startuml\n\n\n\n\n\n/' Objects '/\n\nnamespace n \x7b\n" ++
    "\tclass A \x7b\n\t\t-x : B\n\t\t-x : B*\n\t\x7d\n\n" ++
    "\tclass B \x7b\n\t\t-x : A*\n\t\x7d\n\x7d\n\n\n\n\n\n" ++
    "/' Inheritance relationships '/\n\nn.B <|-- n.A\n\n\n\n\n\n" ++
    "/' Aggregation relationships '/\n\nn.A o-- n.B\n\n\nn.A *-- n.B\n\n\n" ++
    "n.B o-- n.A\n\n\n\n\n\n\n" ++
    "/' Dependency relationships '/\n\n\n\n\n\n/' Nested objects '/\n\n\n\n@enduml\n").toList

theorem drawn_eq_of_perm_swapped :
    drawn true [.ofClass "A".toList "n".toList ["B".toList] ["B*".toList, "B".toList],
        .ofClass "B".toList "n".toList [] ["A*".toList]] {} = .ok mutualText ∧
      drawn true [.ofClass "B".toList "n".toList [] ["A*".toList],
        .ofClass "A".toList "n".toList ["B".toList] ["B*".toList, "B".toList]] {} =
          .ok mutualText := by
  have hdrawn : drawn true [.ofClass "A".toList "n".toList ["B".toList] ["B*".toList, "B".toList],
      .ofClass "B".toList "n".toList [] ["A*".toList]] {} = .ok mutualText := by
    decide +kernel
  refine ⟨hdrawn, .trans ?_ hdrawn⟩
  exact drawn_eq_of_perm true {} {} (.swap _ _ _) (by decide +kernel) (by decide +kernel)

end Diagram

end ClassDiagram
