import ClassDiagram.Proofs.Diagram.Extraction
import Mathlib.Data.List.Forall2
import Mathlib.Data.List.Perm.Basic

/-!
# Links do not depend on the arrangement

The containers of a diagram may stand in another order, and the members of each of them too. Names
then stand for containers of the same name and namespace, so the links found in each container are
the same up to their order. Aggregations are counted by qualified names, so their numbers are the
same as well. Only where several containers share a qualified name may the ends of an aggregation be
different ones of them.
-/
namespace ClassDiagram
open Text

/-- What a link says: the qualified names of its ends, its kind and its number. -/
def Link.signature (l : Link) : Text × Text × LinkKind × Int :=
  (l.parent.qualifiedName, l.child.qualifiedName, l.kind, l.count)

/-- The same container with its members in any order. -/
def Container.SameButMembers (c d : Container) : Prop :=
  ∃ members, c.members.Perm members ∧ d = { c with members }

/-- The same containers in any order, each with its members in any order. -/
def Rearranged (objects objects' : List Container) : Prop :=
  ∃ between, List.Forall₂ Container.SameButMembers objects between ∧ between.Perm objects'

/-- A counted entry is drawn between containers of the names under which it was counted. -/
theorem Relations.map_signature_entryLink (objects : List Container) :
    ((Tally.ofMentions (objects.flatMap (mentionsOf objects))).entries.map (entryLink objects)).map
        Link.signature =
      (Tally.ofMentions (objects.flatMap (mentionsOf objects))).entries.map fun x =>
        (x.1, x.2.target, x.2.kind, (x.2.count : Int)) := by
  rw [List.map_map]
  refine List.map_congr_left fun x hx => ?_
  obtain ⟨howner, htarget, -⟩ := entries_spec hx
  obtain ⟨c, -, -, hc, hcname⟩ := listedEnd_eq howner
  obtain ⟨d, -, -, hd, hdname⟩ := listedEnd_eq htarget
  rw [Function.comp_apply, entryLink, hc, hd]
  simp [Link.signature, Link.aggregates, hcname, hdname]

namespace Rearranged
variable {objects objects' : List Container}

theorem of_perm (h : objects.Perm objects') : Rearranged objects objects' :=
  ⟨objects, List.forall₂_same.2 fun c _ => ⟨c.members, .refl _, rfl⟩, h⟩

/-- What is collected from each container is the same up to its order, if that is so whenever the
members of one container are put in another order. -/
theorem flatMap_perm {α : Type} (h : Rearranged objects objects') {f : Container → List α}
    (hf : ∀ c members, c.members.Perm members → (f c).Perm (f { c with members })) :
    (objects.flatMap f).Perm (objects'.flatMap f) := by
  obtain ⟨between, hmembers, horder⟩ := h
  refine List.Perm.trans ?_ (horder.flatMap_right f)
  clear horder
  induction hmembers with
  | nil => exact .nil
  | cons hcd _ ih =>
    obtain ⟨members, hperm, rfl⟩ := hcd
    rw [List.flatMap_cons, List.flatMap_cons]
    exact (hf _ members hperm).append ih

theorem endpoint_perm (h : Rearranged objects objects') :
    (objects.map Container.endpoint).Perm (objects'.map Container.endpoint) := by
  have hflat := h.flatMap_perm (f := fun c => [c.endpoint]) fun _ _ _ => .refl _
  simpa [← List.map_eq_flatMap] using hflat

theorem isNamed (h : Rearranged objects objects') (hobjects : ∀ c ∈ objects, c.IsNamed) :
    ∀ c ∈ objects', c.IsNamed := by
  intro c hc
  obtain ⟨d, hd, hdc⟩ := List.mem_map.1 (h.endpoint_perm.mem_iff.2 (List.mem_map_of_mem hc))
  obtain ⟨hname, hns⟩ : d.name = c.name ∧ d.ns = c.ns := by simpa [Container.endpoint] using hdc
  obtain ⟨hd, hd'⟩ := hobjects d hd
  exact ⟨hname ▸ hd, hns ▸ hd'⟩

open Relations

section
variable (h : Rearranged objects objects') (hobjects : ∀ c ∈ objects, c.IsNamed)
include h hobjects

/-- Every name stands for the same endpoint in both arrangements. -/
theorem endpointOf_eq (cmp : Comparison) (name : Text) (scope : List Text) :
    endpointOf cmp name scope objects = endpointOf cmp name scope objects' :=
  endpointOf_congr hobjects (h.isNamed hobjects) h.endpoint_perm.subset
    h.endpoint_perm.symm.subset cmp name scope

theorem inheritance_perm :
    (objects.flatMap (inheritanceOf objects)).Perm (objects'.flatMap (inheritanceOf objects')) := by
  have heq : inheritanceOf objects = inheritanceOf objects' := by
    funext c
    simp only [inheritanceOf, h.endpointOf_eq hobjects]
  rw [heq]
  exact h.flatMap_perm fun _ _ _ => .refl _

theorem nesting_perm :
    (objects.filterMap (nestingOf objects)).Perm (objects'.filterMap (nestingOf objects')) := by
  have heq : nestingOf objects = nestingOf objects' := by
    funext c
    simp only [nestingOf, h.endpointOf_eq hobjects]
  rw [heq, List.filterMap_eq_flatMap_toList, List.filterMap_eq_flatMap_toList]
  exact h.flatMap_perm fun _ _ _ => .refl _

theorem dependency_perm :
    (objects.flatMap (dependencyOf objects)).Perm (objects'.flatMap (dependencyOf objects')) := by
  have heq : dependencyOf objects = dependencyOf objects' := by
    funext c
    simp only [dependencyOf, h.endpointOf_eq hobjects]
  rw [heq]
  exact h.flatMap_perm fun c members hperm => (hperm.filterMap _).flatMap_right _

theorem mentions_perm :
    (objects.flatMap (mentionsOf objects)).Perm (objects'.flatMap (mentionsOf objects')) := by
  have heq : mentionsOf objects = mentionsOf objects' := by
    funext c
    simp only [mentionsOf, h.endpointOf_eq hobjects]
  rw [heq]
  refine h.flatMap_perm fun c members hperm => ?_
  have htypes : c.attributeTypes.Perm { c with members }.attributeTypes := hperm.filterMap _
  unfold mentionsOf
  by_cases hclass : c.isClass
  · rw [if_pos hclass, if_pos (by exact hclass)]
    exact htypes.filterMap _
  · rw [if_neg hclass, if_neg (by exact hclass)]

theorem aggregation_signature_perm :
    ((aggregation objects).1.map Link.signature).Perm
      ((aggregation objects').1.map Link.signature) := by
  rw [aggregation_eq hobjects, aggregation_eq (h.isNamed hobjects), map_signature_entryLink,
    map_signature_entryLink]
  exact (Tally.entries_perm (h.mentions_perm hobjects)).map _

end

/-- A class `n::Car` that extends what `Wheel` names. -/
def car (members : List Member) : Container :=
  { kind := "class".toList, name := "Car".toList, ns := "n".toList, parent := none
    trait := .classifier false none ["Wheel".toList], members }

/-- A class that may be called `n::Wheel` in two ways: inside a namespace and outside of any. -/
def wheel (name ns : Text) : Container :=
  { kind := "class".toList, name, ns, parent := none
    trait := .classifier false none [], members := [] }

/-- An attribute of the given type. -/
def held (type : Text) : Member :=
  .attribute { name := "w".toList, type, isStatic := false, access := .privateAccess }

/-- Links are built without a fault from containers named by identifiers, however the containers and
their members are arranged, and all arrangements give links with the same signatures. -/
theorem buildLinks_signature_perm (withDependencies : Bool) (d : Diagram)
    {objects' : List Container} (hnamed : ∀ c ∈ d.objects, c.IsNamed)
    (harranged : Rearranged d.objects objects') :
    ∃ e e', d.buildLinks withDependencies = (e, none) ∧
      { d with objects := objects' }.buildLinks withDependencies = (e', none) ∧
      (e.inheritance.map Link.signature).Perm (e'.inheritance.map Link.signature) ∧
      (e.aggregation.map Link.signature).Perm (e'.aggregation.map Link.signature) ∧
      (e.dependency.map Link.signature).Perm (e'.dependency.map Link.signature) ∧
      (e.nesting.map Link.signature).Perm (e'.nesting.map Link.signature) := by
  have hnamed' := harranged.isNamed hnamed
  refine ⟨_, _, Diagram.buildLinks_eq withDependencies hnamed,
    Diagram.buildLinks_eq withDependencies hnamed', ?_⟩
  refine ⟨?_, harranged.aggregation_signature_perm hnamed, ?_, ?_⟩
  · rw [inheritance_eq hnamed, inheritance_eq hnamed']
    exact (harranged.inheritance_perm hnamed).map _
  · cases withDependencies with
    | true =>
      rw [if_pos rfl, if_pos rfl, dependency_eq hnamed, dependency_eq hnamed']
      exact (harranged.dependency_perm hnamed).map _
    | false => exact .refl _
  · rw [nesting_eq hnamed, nesting_eq hnamed']
    exact (harranged.nesting_perm hnamed).map _

theorem buildLinks_signature_perm_wheels :
    ∃ e e',
      ({ objects := [car [held "Wheel*".toList, held "Wheel".toList],
          wheel "Wheel".toList "n".toList, wheel "n::Wheel".toList []] } : Diagram).buildLinks true
        = (e, none) ∧
      ({ objects := [wheel "n::Wheel".toList [],
          car [held "Wheel".toList, held "Wheel*".toList],
          wheel "Wheel".toList "n".toList] } : Diagram).buildLinks true = (e', none) ∧
      (e.inheritance.map Link.signature = [("n::Wheel".toList, "n::Car".toList, .inheritance, 1)] ∧
        e.aggregation.map Link.signature =
          [("n::Car".toList, "n::Wheel".toList, .aggregation, 1),
            ("n::Car".toList, "n::Wheel".toList, .composition, 1)] ∧
        e.dependency = [] ∧ e.nesting = []) ∧
      (e.inheritance.map Link.signature).Perm (e'.inheritance.map Link.signature) ∧
      (e.aggregation.map Link.signature).Perm (e'.aggregation.map Link.signature) ∧
      (e.dependency.map Link.signature).Perm (e'.dependency.map Link.signature) ∧
      (e.nesting.map Link.signature).Perm (e'.nesting.map Link.signature) := by
  have harranged : Rearranged
      [car [held "Wheel*".toList, held "Wheel".toList],
        wheel "Wheel".toList "n".toList, wheel "n::Wheel".toList []]
      [wheel "n::Wheel".toList [], car [held "Wheel".toList, held "Wheel*".toList],
        wheel "Wheel".toList "n".toList] :=
    ⟨[car [held "Wheel".toList, held "Wheel*".toList],
        wheel "Wheel".toList "n".toList, wheel "n::Wheel".toList []],
      .cons ⟨_, .swap _ _ _, rfl⟩ (.cons ⟨[], .refl _, rfl⟩ (.cons ⟨[], .refl _, rfl⟩ .nil)),
      by decide +kernel⟩
  obtain ⟨e, e', he, he', hperm⟩ :=
    buildLinks_signature_perm true { objects := _ } (by decide +kernel) harranged
  refine ⟨e, e', he, he', ?_, hperm⟩
  obtain rfl := congrArg Prod.fst he
  decide +kernel

end Rearranged

/-- Containers named by identifiers, each by a qualified name of its own. -/
structure Identified (objects : List Container) : Prop where
  named : ∀ c ∈ objects, c.IsNamed
  qualifiedNames : (objects.map Container.qualifiedName).Nodup

instance (objects : List Container) : Decidable (Identified objects) :=
  decidable_of_iff ((∀ c ∈ objects, c.IsNamed) ∧ (objects.map Container.qualifiedName).Nodup)
    ⟨fun h => ⟨h.1, h.2⟩, fun h => ⟨h.named, h.qualifiedNames⟩⟩

namespace Relations
variable {objects : List Container} {name : Text}

theorem listedEnd_mem (h : name ∈ objects.map Container.qualifiedName) :
    listedEnd objects name ∈ objects.map Container.endpoint := by
  obtain ⟨c, hc, -, hend, -⟩ := listedEnd_eq h
  exact hend ▸ List.mem_map_of_mem hc

theorem qualifiedName_listedEnd (h : name ∈ objects.map Container.qualifiedName) :
    (listedEnd objects name).qualifiedName = name := by
  obtain ⟨c, -, -, hend, hname⟩ := listedEnd_eq h
  rw [hend, Container.qualifiedName_endpoint, hname]

end Relations

namespace Identified
variable {objects objects' : List Container} (h : Identified objects)
include h

theorem eq_of_qualifiedName {e e' : Endpoint} (he : e ∈ objects.map Container.endpoint)
    (he' : e' ∈ objects.map Container.endpoint) (hname : e.qualifiedName = e'.qualifiedName) :
    e = e' := by
  obtain ⟨c, hc, rfl⟩ := List.mem_map.1 he
  obtain ⟨c', hc', rfl⟩ := List.mem_map.1 he'
  rw [List.inj_on_of_nodup_map h.qualifiedNames hc hc' hname]

theorem eq_of_endpoint {c d : Container} (hc : c ∈ objects) (hd : d ∈ objects)
    (hend : c.endpoint = d.endpoint) : c = d :=
  List.inj_on_of_nodup_map h.qualifiedNames hc hd (Container.qualifiedName_congr hend)

open Relations

variable (harranged : Rearranged objects objects')
include harranged

theorem listedEnd_eq {name : Text} (hname : name ∈ objects.map Container.qualifiedName) :
    listedEnd objects name = listedEnd objects' name := by
  have hends := harranged.endpoint_perm
  have hnames : (objects.map Container.qualifiedName).Perm
      (objects'.map Container.qualifiedName) := by
    have hmap := hends.map Endpoint.qualifiedName
    rwa [List.map_map, List.map_map] at hmap
  have hname' := hnames.mem_iff.1 hname
  refine h.eq_of_qualifiedName (listedEnd_mem hname) (hends.mem_iff.2 (listedEnd_mem hname')) ?_
  rw [qualifiedName_listedEnd hname, qualifiedName_listedEnd hname']

/-- Aggregations are then the same up to their order, not only their signatures. -/
theorem aggregation_perm : (aggregation objects).1.Perm (aggregation objects').1 := by
  rw [aggregation_eq h.named, aggregation_eq (harranged.isNamed h.named)]
  have hlink : ∀ x ∈ (Tally.ofMentions (objects.flatMap (mentionsOf objects))).entries,
      entryLink objects x = entryLink objects' x := by
    intro x hx
    obtain ⟨howner, htarget, -⟩ := entries_spec hx
    rw [entryLink, entryLink, h.listedEnd_eq harranged howner, h.listedEnd_eq harranged htarget]
  rw [List.map_congr_left hlink]
  exact (Tally.entries_perm (harranged.mentions_perm h.named)).map _

end Identified

end ClassDiagram
