import ClassDiagram.Diagram.Command
import ClassDiagram.Proofs.Diagram.LinkLines
import ClassDiagram.Proofs.Diagram.Reproduction

/-!
# Headers one after the other

A diagram may be created from one header and go on with others, or be created from all of them at
once. In the first case the containers of the first header and their members are sorted already when
the links are built for all headers, so the links are found in another order. Sorting puts links of
different keys in their places again. But the keys leave out the namespaces, and links of one key
keep the order in which they were found: the two drawings are the same exactly if that order is the
same (`Diagram.renderStandard_sort_eq_iff`).
-/
namespace ClassDiagram
open Text Relations

namespace Identified
variable {objects objects' : List Container} (h : Identified objects)
include h

/-- Links that are made of their two ends alone are legible. -/
theorem legible_of_ends {links : List Link} (make : Endpoint → Endpoint → Link)
    (hparent : ∀ p c, (make p c).parent = p) (hchild : ∀ p c, (make p c).child = c)
    (harrow : ∀ p c, ∃ arrow, (make p c).kind.arrow = .ok arrow)
    (hlinks : ∀ l ∈ links, ∃ p ∈ objects, ∃ c ∈ objects, l = make p.endpoint c.endpoint) :
    Legible links := by
  refine .of_joins h ?_ ?_ ?_
  · intro l hl
    obtain ⟨p, hp, c, hc, rfl⟩ := hlinks l hl
    rw [Link.Joins, hparent, hchild]
    exact ⟨List.mem_map_of_mem hp, List.mem_map_of_mem hc⟩
  · intro l hl
    obtain ⟨p, -, c, -, rfl⟩ := hlinks l hl
    exact harrow _ _
  · intro l hl l' hl' hp hc _
    obtain ⟨p, -, c, -, rfl⟩ := hlinks l hl
    obtain ⟨p', -, c', -, rfl⟩ := hlinks l' hl'
    rw [hparent, hparent] at hp
    rw [hchild, hchild] at hc
    rw [hp, hc]

theorem legible_aggregation : Legible (aggregation objects).1 := by
  rw [aggregation_eq h.named]
  refine .of_joins h ?_ ?_ ?_
  · intro l hl
    obtain ⟨x, hx, rfl⟩ := List.mem_map.1 hl
    obtain ⟨howner, htarget, -⟩ := entries_spec hx
    exact ⟨listedEnd_mem howner, listedEnd_mem htarget⟩
  · intro l hl
    obtain ⟨x, hx, rfl⟩ := List.mem_map.1 hl
    obtain ⟨-, -, hkind | hkind⟩ := entries_spec hx
    · exact ⟨_, congrArg LinkKind.arrow hkind⟩
    · exact ⟨_, congrArg LinkKind.arrow hkind⟩
  · intro l hl l' hl' hparent hchild hkind
    obtain ⟨x, hx, rfl⟩ := List.mem_map.1 hl
    obtain ⟨y, hy, rfl⟩ := List.mem_map.1 hl'
    obtain ⟨howner, htarget, -⟩ := entries_spec hx
    obtain ⟨howner', htarget', -⟩ := entries_spec hy
    have hownerEq := congrArg Endpoint.qualifiedName hparent
    have htargetEq := congrArg Endpoint.qualifiedName hchild
    simp only [entryLink, Link.aggregates, qualifiedName_listedEnd howner,
      qualifiedName_listedEnd howner'] at hownerEq
    simp only [entryLink, Link.aggregates, qualifiedName_listedEnd htarget,
      qualifiedName_listedEnd htarget'] at htargetEq
    rw [Tally.eq_of_mem_entries hx hy hownerEq htargetEq hkind]

section
variable (harranged : Rearranged objects objects')
include harranged

/-- Rearranged containers have the same links in another order. -/
theorem reordered_inheritance : Reordered (inheritance objects).1 (inheritance objects').1 where
  perm := by
    rw [inheritance_eq h.named, inheritance_eq (harranged.isNamed h.named)]
    exact harranged.inheritance_perm h.named
  legible := h.legible_of_ends Link.inherits (fun _ _ => rfl) (fun _ _ => rfl)
    (fun _ _ => ⟨_, rfl⟩) fun _ => exists_of_mem_inheritance

theorem reordered_dependency : Reordered (dependency objects).1 (dependency objects').1 where
  perm := by
    rw [dependency_eq h.named, dependency_eq (harranged.isNamed h.named)]
    exact harranged.dependency_perm h.named
  legible := h.legible_of_ends Link.depends (fun _ _ => rfl) (fun _ _ => rfl)
    (fun _ _ => ⟨_, rfl⟩) fun _ => exists_of_mem_dependency

theorem reordered_nesting : Reordered (nesting objects).1 (nesting objects').1 where
  perm := by
    rw [nesting_eq h.named, nesting_eq (harranged.isNamed h.named)]
    exact harranged.nesting_perm h.named
  legible := h.legible_of_ends Link.nests (fun _ _ => rfl) (fun _ _ => rfl)
    (fun _ _ => ⟨_, rfl⟩) fun _ => exists_of_mem_nesting

theorem reordered_aggregation : Reordered (aggregation objects).1 (aggregation objects').1 :=
  ⟨h.aggregation_perm harranged, h.legible_aggregation⟩

end

end Identified

/-- Links of one key come in the same order. -/
def SameTies (links links' : List Link) : Prop :=
  ∀ k, ties Link.key k links = ties Link.key k links'

instance (links links' : List Link) : Decidable (SameTies links links') :=
  decidable_of_iff (sortBy Link.key links = sortBy Link.key links') (sortBy_eq_iff Link.key)

/-- In two arrangements of containers, the links of one key are found in the same order. -/
structure SameOrder (withDependencies : Bool) (objects objects' : List Container) : Prop where
  inheritance : SameTies (Relations.inheritance objects).1 (Relations.inheritance objects').1
  aggregation : SameTies (Relations.aggregation objects).1 (Relations.aggregation objects').1
  dependency : withDependencies = true →
    SameTies (Relations.dependency objects).1 (Relations.dependency objects').1
  nesting : SameTies (Relations.nesting objects).1 (Relations.nesting objects').1

instance (withDependencies : Bool) (objects objects' : List Container) :
    Decidable (SameOrder withDependencies objects objects') :=
  decidable_of_iff
    (SameTies (inheritance objects).1 (inheritance objects').1 ∧
      SameTies (aggregation objects).1 (aggregation objects').1 ∧
      (withDependencies = true → SameTies (dependency objects).1 (dependency objects').1) ∧
      SameTies (nesting objects).1 (nesting objects').1)
    ⟨fun ⟨hi, ha, hd, hn⟩ => ⟨hi, ha, hd, hn⟩,
      fun h => ⟨h.inheritance, h.aggregation, h.dependency, h.nesting⟩⟩

theorem Reordered.sort {links links' : List Link} (h : Reordered links links') :
    Reordered (sortBy Link.key links) (sortBy Link.key links') where
  perm := (perm_sortBy _ _).trans (h.perm.trans (perm_sortBy _ _).symm)
  legible := h.legible.subset (perm_sortBy _ _).subset

/-- The first of the containers may be sorted already, with their members. -/
theorem Rearranged.sort_left (xs ys : List Container) :
    Rearranged (xs ++ ys) ((sortBy Container.key xs).map Container.sortMembers ++ ys) := by
  refine ⟨xs.map Container.sortMembers ++ ys, ?_, ?_⟩
  · refine List.rel_append ?_ (List.forall₂_same.2 fun c _ => ⟨c.members, .refl _, rfl⟩)
    rw [List.forall₂_map_right_iff]
    exact List.forall₂_same.2 fun c _ => ⟨_, (perm_sortBy Member.key c.members).symm, rfl⟩
  · exact ((perm_sortBy Container.key xs).symm.map _).append_right ys

theorem Container.sortMembers_sortMembers (c : Container) :
    c.sortMembers.sortMembers = c.sortMembers := by
  simp [sortMembers]

namespace Diagram

/-- When all containers are sorted, it does not matter that some were before. -/
theorem sort_objects_left (xs ys : List Container) :
    (sortBy Container.key ((sortBy Container.key xs).map Container.sortMembers ++ ys)).map
        Container.sortMembers =
      (sortBy Container.key (xs ++ ys)).map Container.sortMembers := by
  have hkey : ∀ c, Container.key (Container.sortMembers c) = c.key := fun _ => rfl
  have hmembers : ((sortBy Container.key xs).map Container.sortMembers ++ ys).map
      Container.sortMembers = (sortBy Container.key xs ++ ys).map Container.sortMembers := by
    simp [Container.sortMembers_sortMembers]
  rw [← sortBy_map Container.key hkey, hmembers, sortBy_map Container.key hkey, sortBy_append_left]

/-- Rearranged containers whose links have been sorted are drawn as the same text if and only if the
links of one key were found in the same order, or the containers cannot be drawn at all. -/
theorem renderStandard_sort_eq_iff (withDependencies : Bool) {objects objects' : List Container}
    (h : Identified objects) (harranged : Rearranged objects objects')
    (hsort : (sortBy Container.key objects).map Container.sortMembers =
      (sortBy Container.key objects').map Container.sortMembers) :
    (linked withDependencies objects).sort.renderStandard withDependencies =
        (linked withDependencies objects').sort.renderStandard withDependencies ↔
      (∀ text, (linked withDependencies objects).sort.renderStandard withDependencies ≠
          .ok text) ∨
        SameOrder withDependencies objects objects' := by
  have hdependency : Reordered (linked withDependencies objects).dependency
      (linked withDependencies objects').dependency := by
    cases withDependencies with
    | true => exact h.reordered_dependency harranged
    | false => exact ⟨.refl _, by constructor <;> simp [linked]⟩
  rw [renderStandard_eq_iff withDependencies hsort (h.reordered_inheritance harranged).sort
    (h.reordered_aggregation harranged).sort hdependency.sort (h.reordered_nesting harranged).sort]
  refine or_congr_right ?_
  simp only [Diagram.sort, sortBy_eq_iff]
  constructor
  · rintro ⟨hi, ha, hd, hn⟩
    exact ⟨hi, ha, by rintro rfl; exact hd rfl, hn⟩
  · rintro ⟨hi, ha, hd, hn⟩
    exact ⟨hi, ha, by rintro rfl; exact hd rfl, hn⟩

/-- Runs commands in turn up to the first fault. -/
def perform (withDependencies : Bool) : List Command → Diagram → Result
  | [], d => (d, none)
  | c :: commands, d => (c.apply withDependencies d).andThen (perform withDependencies commands)

theorem perform_append (withDependencies : Bool) (xs ys : List Command) (d : Diagram) :
    perform withDependencies (xs ++ ys) d =
      (perform withDependencies xs d).andThen (perform withDependencies ys) := by
  induction xs generalizing d with
  | nil => rfl
  | cons c xs ih =>
    rw [List.cons_append, perform, perform, Result.andThen_assoc]
    exact congrArg _ (funext ih)

/-- Headers that are added one after the other are added completely. -/
theorem perform_adds (withDependencies : Bool) {headers : List Header}
    (hread : ∀ x ∈ headers, x.objects.2 = none) (d : Diagram) :
    perform withDependencies (headers.map fun x => .add [.ok x]) d =
      ({ d with objects := d.objects ++ headers.flatMap fun x => x.objects.1 }, none) := by
  induction headers generalizing d with
  | nil => simp [perform]
  | cons x headers ih =>
    have hadd := add_eq (List.forall_mem_singleton.2 (hread x (by simp))) d
    rw [List.map_cons, perform]
    change (add ([x].map .ok) d).andThen _ = _
    rw [hadd, Result.andThen_none]
    refine (ih (fun y hy => hread y (by simp [hy])) _).trans ?_
    simp

/-- The commands that create a diagram from one header, add others one after the other, and then
build and sort all links. -/
def stepwise (h : Header) (headers : List Header) : List Command :=
  .create [.ok h] :: headers.map (fun x => .add [.ok x]) ++ [.buildLinks, .sort]

/-- The containers as they are when all links are built: those of the first header are sorted. -/
def foundStepwise (h : Header) (headers : List Header) : List Container :=
  (sortBy Container.key h.objects.1).map Container.sortMembers
    ++ headers.flatMap fun x => x.objects.1

theorem rearranged_foundStepwise (h : Header) (headers : List Header) :
    Rearranged ((h :: headers).flatMap fun x => x.objects.1) (foundStepwise h headers) := by
  rw [List.flatMap_cons]
  exact .sort_left _ _

theorem perform_stepwise (withDependencies : Bool) {h : Header} {headers : List Header}
    (d : Diagram) (hread : ∀ x ∈ h :: headers, x.objects.2 = none)
    (hnamed : ∀ c ∈ (h :: headers).flatMap fun x => x.objects.1, c.IsNamed) :
    perform withDependencies (stepwise h headers) d =
      ((linked withDependencies (foundStepwise h headers)).sort, none) := by
  obtain ⟨hfirst, hrest⟩ := List.forall_mem_cons.1 hread
  have hcreate : create withDependencies [.ok h] d =
      ((linked withDependencies h.objects.1).sort, none) := by
    have hone := create_eq withDependencies d (List.forall_mem_singleton.2 hfirst)
      fun c hc => hnamed c (by simp at hc; simp [hc])
    rwa [List.flatMap_singleton] at hone
  have hadds := perform_adds withDependencies hrest (linked withDependencies h.objects.1).sort
  have hlinks := buildLinks_eq withDependencies (d :=
    { (linked withDependencies h.objects.1).sort with objects := foundStepwise h headers })
    ((rearranged_foundStepwise h headers).isNamed hnamed)
  calc perform withDependencies (stepwise h headers) d
    _ = (create withDependencies [.ok h] d).andThen fun d =>
        (perform withDependencies (headers.map fun x => .add [.ok x]) d).andThen
          (perform withDependencies [.buildLinks, .sort]) :=
      congrArg _ (funext fun d => perform_append withDependencies _ _ d)
    _ = (buildLinks withDependencies
        { (linked withDependencies h.objects.1).sort with
          objects := foundStepwise h headers }).andThen fun d => (d.sort, none) := by
      rw [hcreate, Result.andThen_none, hadds, Result.andThen_none]
      rfl
    _ = ((linked withDependencies (foundStepwise h headers)).sort, none) := by
      rw [hlinks]
      cases withDependencies <;> rfl

/-- The text of the diagram of some headers that are read one after the other, drawn with the
standard template. -/
def drawnStepwise (withDependencies : Bool) (h : Header) (headers : List Header) (d : Diagram) :
    Except Fault Text :=
  match perform withDependencies (stepwise h headers) d with
  | (_, some f) => .error f
  | (d, none) => d.renderStandard withDependencies

/-- Headers that are read one after the other are drawn as when they are read at once if and only if
the links of one key are found in the same order, or the containers cannot be drawn at all. -/
theorem drawnStepwise_eq_iff (withDependencies : Bool) (h : Header) (headers : List Header)
    (d d' : Diagram) (hread : ∀ x ∈ h :: headers, x.objects.2 = none)
    (hidentified : Identified ((h :: headers).flatMap fun x => x.objects.1)) :
    drawnStepwise withDependencies h headers d = drawn withDependencies (h :: headers) d' ↔
      (∀ text, drawn withDependencies (h :: headers) d' ≠ .ok text) ∨
        SameOrder withDependencies ((h :: headers).flatMap fun x => x.objects.1)
          (foundStepwise h headers) := by
  have hstepwise : drawnStepwise withDependencies h headers d =
      (linked withDependencies (foundStepwise h headers)).sort.renderStandard
        withDependencies := by
    rw [drawnStepwise, perform_stepwise withDependencies d hread hidentified.named]
  have hdrawn : drawn withDependencies (h :: headers) d' =
      (linked withDependencies ((h :: headers).flatMap fun x => x.objects.1)).sort.renderStandard
        withDependencies := by
    rw [drawn, create_eq withDependencies d' hread hidentified.named]
  rw [hstepwise, hdrawn, eq_comm]
  refine renderStandard_sort_eq_iff withDependencies hidentified
    (rearranged_foundStepwise h headers) ?_
  rw [foundStepwise, sort_objects_left, List.flatMap_cons]

/-- The aggregation of `k::Y` is found last in one case and first in the other, which is of no
consequence. Those of `m::X` and `n::X` have one key, and are found in the same order. -/
theorem drawnStepwise_eq_iff_aligned :
    drawnStepwise true
        (.ofClass "A".toList [] [] ["m::X".toList, "n::X".toList, "k::Y".toList])
        [.ofClass "X".toList "m".toList [] [], .ofClass "X".toList "n".toList [] [],
          .ofClass "Y".toList "k".toList [] []] {} =
      drawn true
        [.ofClass "A".toList [] [] ["m::X".toList, "n::X".toList, "k::Y".toList],
          .ofClass "X".toList "m".toList [] [], .ofClass "X".toList "n".toList [] [],
          .ofClass "Y".toList "k".toList [] []] {} :=
  (drawnStepwise_eq_iff true _ _ {} {} (by decide +kernel) (by decide +kernel)).2
    (.inr (by decide +kernel))

/-- The aggregations of `n::X` and `m::X` have one key. They are found in the order of the
attributes, and that order has been changed by sorting if the class was read before the others. -/
theorem drawnStepwise_ne_drawn :
    ∃ (h : Header) (headers : List Header), (∀ x ∈ h :: headers, x.objects.2 = none) ∧
      Identified ((h :: headers).flatMap fun x => x.objects.1) ∧
      drawnStepwise false h headers {} ≠ drawn false (h :: headers) {} :=
  ⟨.ofClass "A".toList [] [] ["n::X".toList, "m::X".toList],
    [.ofClass "X".toList "m".toList [] [], .ofClass "X".toList "n".toList [] []],
    by decide +kernel, by decide +kernel, by decide +kernel⟩

end Diagram

end ClassDiagram
