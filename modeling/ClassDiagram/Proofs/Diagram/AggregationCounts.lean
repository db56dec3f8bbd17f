import ClassDiagram.Proofs.Diagram.Arrangement
import Mathlib.Algebra.BigOperators.Ring.Finset

/-!
# Aggregations are counted exactly

An attribute of a class holds the container that its type stands for in the scope of the class, by
pointer or as a part of its own. `Diagram.holdings` counts the attributes by the look-ups of their
types alone. The list of aggregations has one link for each two qualified names and each way of
holding that occurs, and its number is the one counted there. No attribute is lost on the way: the
numbers of all links add up to the number of attributes that hold something.
-/
namespace ClassDiagram
open Text

namespace Tally

/-- How many mentions the entries of one owner stand for. -/
def entryTotal (es : List Entry) : Nat := (es.map Entry.count).sum

/-- How many mentions a tally stands for. -/
def total (t : Tally) : Nat := (t.entries.map fun x => x.2.count).sum

theorem total_cons (o : Text) (es : List Entry) (t : Tally) :
    total ((o, es) :: t) = entryTotal es + total t := by
  simp [total, entries, entryTotal, Function.comp_def]

theorem entryTotal_bump (target : Text) (kind : LinkKind) (es : List Entry) :
    entryTotal (bump target kind es) = entryTotal es + 1 := by
  induction es with
  | nil => rfl
  | cons e es ih =>
    rw [bump]
    simp only [entryTotal] at ih ⊢
    split
    · simp only [List.map_cons, List.sum_cons]
      omega
    · simp only [List.map_cons, List.sum_cons, ih]
      omega

theorem total_add (m : Mention) (t : Tally) : total (add m t) = total t + 1 := by
  induction t with
  | nil =>
    rw [add, total_cons, entryTotal_bump]
    rfl
  | cons x t ih =>
    obtain ⟨o, es⟩ := x
    rw [add]
    split
    · rw [total_cons, total_cons, entryTotal_bump]
      omega
    · rw [total_cons, total_cons, ih]
      omega

/-- A tally stands for all mentions that were made. -/
theorem total_ofMentions (ms : List Mention) : total (ofMentions ms) = ms.length := by
  induction ms using List.reverseRecOn with
  | nil => rfl
  | append_singleton ms m ih =>
    rw [ofMentions_concat, total_add, ih, List.length_append, List.length_singleton]

end Tally

namespace Diagram

/-- The attributes of all classes, each given by its class and its type. -/
def attributes (d : Diagram) : List (Container × Text) :=
  (d.objects.filter Container.isClass).flatMap fun o => o.attributeTypes.map fun type => (o, type)

/-- What an attribute holds, and how: the qualified name of the container for which its type stands,
looked up as a whole word from the namespace of the class and the classes around it. -/
def heldBy (d : Diagram) (a : Container × Text) : Option (Text × LinkKind) :=
  match d.find .word a.2 (Namespace.parts a.1.ns ++ a.1.name.components.dropLast) with
  | .ok (some (_, p)) =>
    some (p.qualifiedName,
      if TypeText.holdsPointerTo p.name a.2 then .aggregation else .composition)
  | _ => none

/-- How many attributes of the classes called `owner` hold what is called `target` in one way. -/
def holdings (d : Diagram) (owner target : Text) (kind : LinkKind) : Nat :=
  d.attributes.countP fun a => a.1.qualifiedName = owner ∧ d.heldBy a = some (target, kind)

variable {d : Diagram}

theorem heldBy_eq {o : Container} (ho : o.IsNamed) (type : Text) :
    d.heldBy (o, type) = (endpointOf .word type o.innerScope d.objects).map fun e =>
      (e.qualifiedName,
        if TypeText.holdsPointerTo e.name type then .aggregation else .composition) := by
  rw [Container.innerScope_eq_scope ho, Container.scope_eq ho]
  simp only [heldBy, endpointOf, find]
  cases resolve .word type (Namespace.parts o.ns ++ o.name.components.dropLast) d.objects with
  | error f => rfl
  | ok found => cases found <;> rfl

section
variable (hnamed : ∀ c ∈ d.objects, c.IsNamed)
include hnamed

/-- The mentions that are counted are those of the attributes that hold something. -/
theorem mentions_eq_filterMap_attributes :
    d.objects.flatMap (Relations.mentionsOf d.objects) =
      d.attributes.filterMap fun a =>
        (d.heldBy a).map fun x => ⟨a.1.qualifiedName, x.1, x.2⟩ := by
  rw [← flatMap_filter fun _ => Relations.mentionsOf_of_not_isClass, attributes,
    List.filterMap_flatMap]
  refine List.flatMap_congr fun o ho => ?_
  obtain ⟨hmem, hclass⟩ := List.mem_filter.1 ho
  rw [Relations.mentionsOf, if_pos hclass, List.filterMap_map]
  refine List.filterMap_congr fun type _ => ?_
  rw [Function.comp_apply, heldBy_eq (hnamed o hmem), Option.map_map]
  rfl

theorem count_mentions (owner target : Text) (kind : LinkKind) :
    (d.objects.flatMap (Relations.mentionsOf d.objects)).count ⟨owner, target, kind⟩ =
      d.holdings owner target kind := by
  rw [mentions_eq_filterMap_attributes hnamed, List.count_eq_countP, List.countP_filterMap,
    holdings]
  refine List.countP_congr fun a _ => ?_
  cases hheld : d.heldBy a with
  | none => simp
  | some x =>
    obtain ⟨target', kind'⟩ := x
    simp [Mention.mk.injEq]

theorem length_mentions :
    (d.objects.flatMap (Relations.mentionsOf d.objects)).length =
      d.attributes.countP fun a => (d.heldBy a).isSome := by
  rw [mentions_eq_filterMap_attributes hnamed, List.length_filterMap_eq_countP]
  simp only [Option.isSome_map]

end

/-- The numbers of the links from one qualified name to another. -/
theorem counts_entryLink (hnamed : ∀ c ∈ d.objects, c.IsNamed) (owner target : Text)
    (kind : LinkKind) :
    ((((Tally.ofMentions (d.objects.flatMap (Relations.mentionsOf d.objects))).entries.map
      (Relations.entryLink d.objects)).filter fun l =>
        l.parent.qualifiedName = owner ∧ l.child.qualifiedName = target ∧ l.kind = kind).map
      Link.count) =
    if 0 < d.holdings owner target kind then [(d.holdings owner target kind : Int)] else [] := by
  have hsignatures := Relations.map_signature_entryLink d.objects
  generalize (Tally.ofMentions _).entries.map (Relations.entryLink d.objects) = links
    at hsignatures ⊢
  have hread : (links.filter fun l => l.parent.qualifiedName = owner ∧
        l.child.qualifiedName = target ∧ l.kind = kind).map Link.count =
      ((links.map Link.signature).filter fun s =>
        s.1 = owner ∧ s.2.1 = target ∧ s.2.2.1 = kind).map fun s => s.2.2.2 := by
    rw [List.filter_map, List.map_map]
    rfl
  have hentries := Tally.filter_entries (d.objects.flatMap (Relations.mentionsOf d.objects)) owner
    target kind
  rw [count_mentions hnamed] at hentries
  rw [hread, hsignatures, List.filter_map, List.map_map]
  simp only [Function.comp_def, hentries]
  split <;> rfl

/-- Aggregations are built without a fault from containers named by identifiers. From any qualified
name to any other there is one link of each of the two kinds if attributes are held so, with their
number, and none otherwise. All numbers together are the number of attributes that hold
something. -/
theorem buildAggregation_counts (d : Diagram) (hnamed : ∀ c ∈ d.objects, c.IsNamed) :
    ∃ links, d.buildAggregation = ({ d with aggregation := links }, none) ∧
      (∀ l ∈ links, l.kind = .aggregation ∨ l.kind = .composition) ∧
      (∀ owner target kind,
        (links.filter fun l => l.parent.qualifiedName = owner ∧ l.child.qualifiedName = target ∧
          l.kind = kind).map Link.count =
        if 0 < d.holdings owner target kind then [(d.holdings owner target kind : Int)] else []) ∧
      (links.map Link.count).sum = d.attributes.countP fun a => (d.heldBy a).isSome := by
  refine ⟨_, by rw [buildAggregation, Relations.aggregation_eq hnamed], ?_,
    counts_entryLink hnamed, ?_⟩
  · intro l hl
    obtain ⟨x, hx, rfl⟩ := List.mem_map.1 hl
    exact (Relations.entries_spec hx).2.2
  · have htotal := Tally.total_ofMentions (d.objects.flatMap (Relations.mentionsOf d.objects))
    rw [length_mentions hnamed, Tally.total] at htotal
    rw [← htotal, List.map_map, Nat.cast_list_sum, List.map_map]
    rfl

/-- A car with three wheels, of which it holds two by pointer and one as its own part, and with a
horn that no container stands for. -/
def tricycle : Diagram :=
  { objects := [Rearranged.car [Rearranged.held "Wheel*".toList, Rearranged.held "Wheel".toList,
      Rearranged.held "unique_ptr<Wheel>".toList, Rearranged.held "Horn".toList],
      Rearranged.wheel "Wheel".toList "n".toList, Rearranged.wheel "n::Wheel".toList []] }

theorem buildAggregation_counts_tricycle :
    ∃ links, tricycle.buildAggregation = ({ tricycle with aggregation := links }, none) ∧
      ((links.filter fun l => l.parent.qualifiedName = "n::Car".toList ∧
        l.child.qualifiedName = "n::Wheel".toList ∧ l.kind = .aggregation).map Link.count) = [2] ∧
      ((links.filter fun l => l.parent.qualifiedName = "n::Car".toList ∧
        l.child.qualifiedName = "n::Wheel".toList ∧ l.kind = .composition).map Link.count) = [1] ∧
      (links.map Link.count).sum = 3 := by
  obtain ⟨links, hbuild, -, hcounts, hsum⟩ := buildAggregation_counts tricycle (by decide +kernel)
  have hpointers : tricycle.holdings "n::Car".toList "n::Wheel".toList .aggregation = 2 := by
    decide +kernel
  have hparts : tricycle.holdings "n::Car".toList "n::Wheel".toList .composition = 1 := by
    decide +kernel
  have hheld : tricycle.attributes.countP (fun a => (tricycle.heldBy a).isSome) = 3 := by
    decide +kernel
  refine ⟨links, hbuild, ?_, ?_, ?_⟩
  · rw [hcounts, hpointers]
    rfl
  · rw [hcounts, hparts]
    rfl
  · rw [hsum, hheld]
    rfl

end Diagram

end ClassDiagram
