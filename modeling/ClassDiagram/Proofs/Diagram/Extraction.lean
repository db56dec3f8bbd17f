import ClassDiagram.Diagram.Basic
import ClassDiagram.Proofs.Diagram.Resolution
import ClassDiagram.Proofs.Tally

/-!
# The links of containers named by identifiers

Among containers named by identifiers every name can be looked up, so all four lists of links are
built without a fault. Each list is given here container by container, in terms of the endpoints
that the written names stand for. Aggregations are counted by qualified names; each of them is
listed, so the two ends of a counted entry have the names under which it was counted.
-/
namespace ClassDiagram
open Text

theorem flatMap_filter {α β : Type} {xs : List α} {p : α → Bool} {f : α → List β}
    (h : ∀ x, p x = false → f x = []) : (xs.filter p).flatMap f = xs.flatMap f := by
  induction xs with
  | nil => rfl
  | cons x xs ih =>
    cases hx : p x with
    | true => rw [List.filter_cons_of_pos hx, List.flatMap_cons, List.flatMap_cons, ih]
    | false => simp [hx, h x hx, ih]

/-- The endpoint that a name written in a scope stands for. -/
def endpointOf (cmp : Comparison) (name : Text) (scope : List Text) (objects : List Container) :
    Option Endpoint :=
  match resolve cmp name scope objects with
  | .ok found => found.map Container.endpoint
  | .error _ => none

/-- It is the endpoint of the container that the look-up of the name finds. -/
theorem endpointOf_eq_some_iff {d : Diagram} {cmp : Comparison} {name : Text} {scope : List Text}
    {e : Endpoint} :
    endpointOf cmp name scope d.objects = some e ↔
      ∃ i c, d.find cmp name scope = .ok (some (i, c)) ∧ c.endpoint = e := by
  rw [endpointOf, Diagram.find]
  cases resolve cmp name scope d.objects with
  | error f => simp
  | ok found => simp [and_assoc]

section
variable {objects objects' : List Container}

theorem endpointOf_congr (hobjects : ∀ c ∈ objects, c.IsNamed)
    (hobjects' : ∀ c ∈ objects', c.IsNamed)
    (h : objects.map Container.endpoint ⊆ objects'.map Container.endpoint)
    (h' : objects'.map Container.endpoint ⊆ objects.map Container.endpoint) (cmp : Comparison)
    (name : Text) (scope : List Text) :
    endpointOf cmp name scope objects = endpointOf cmp name scope objects' := by
  obtain ⟨found, found', hfound, hfound', heq⟩ :=
    resolve_endpoint_congr cmp name scope hobjects hobjects' h h'
  rw [endpointOf, endpointOf, hfound, hfound']
  exact heq

theorem mem_of_endpointOf {cmp : Comparison} {name : Text} {scope : List Text} {e : Endpoint}
    (h : endpointOf cmp name scope objects = some e) : ∃ c ∈ objects, c.endpoint = e := by
  rw [endpointOf] at h
  split at h
  · rename_i found hfound
    obtain ⟨c, rfl, rfl⟩ := Option.map_eq_some_iff.1 h
    exact ⟨c, mem_of_resolve hfound, rfl⟩
  · simp at h

/-- What is made of the container that a name stands for, if that only needs its endpoint. -/
theorem resolve_bind_map {α : Type} (hobjects : ∀ c ∈ objects, c.IsNamed) (cmp : Comparison)
    (name : Text) (scope : List Text) {f : Container → α} {g : Endpoint → α}
    (hfg : ∀ c ∈ objects, f c = g c.endpoint) :
    (do return (← resolve cmp name scope objects).map f) =
      (.ok ((endpointOf cmp name scope objects).map g) : Except Fault (Option α)) := by
  have hself := List.Subset.refl (objects.map Container.endpoint)
  obtain ⟨found, -, hfound, -, -⟩ :=
    resolve_endpoint_congr cmp name scope hobjects hobjects hself hself
  rw [endpointOf, hfound, ok_bind, pure_eq_ok]
  cases found with
  | none => rfl
  | some c =>
    have hc := hfg c (mem_of_resolve hfound)
    simp [hc]

namespace Relations

def inheritanceOf (objects : List Container) (c : Container) : List Link :=
  c.bases.filterMap fun base =>
    (endpointOf .equal base c.innerScope objects).map fun p => Link.inherits p c.endpoint

def dependencyOf (objects : List Container) (c : Container) : List Link :=
  c.operations.flatMap fun o => o.parameters.filterMap fun p =>
    if p.type = c.name then none
    else (endpointOf .word p.type c.innerScope objects).map fun d => Link.depends d c.endpoint

def nestingOf (objects : List Container) (c : Container) : Option Link :=
  match c.parent with
  | none => none
  | some parent =>
    if parent = [] then none
    else (endpointOf .word parent c.innerScope objects).map fun p => Link.nests p c.endpoint

def mentionsOf (objects : List Container) (c : Container) : List Mention :=
  if c.isClass then
    c.attributeTypes.filterMap fun type =>
      (endpointOf .word type c.innerScope objects).map fun d =>
        { owner := c.qualifiedName
          target := d.qualifiedName
          kind := if TypeText.holdsPointerTo d.name type then .aggregation else .composition }
  else []

theorem mentionsOf_of_not_isClass {c : Container} (hc : c.isClass = false) :
    mentionsOf objects c = [] := by
  rw [mentionsOf, hc, if_neg Bool.false_ne_true]

/-- A container is counted under its qualified name. -/
theorem countedName_eq {c : Container} (hc : c.IsProper) : countedName c = c.qualifiedName := by
  rw [countedName, properComponents_eq hc.2, Container.qualifiedName]
  by_cases hns : c.ns = []
  · simp [hns, properComponents, qualify_components]
  · have hparts : [] ∉ c.ns.components := by simpa [Namespace.parts, hns] using hc.1
    rw [if_neg hns, properComponents_eq hparts, qualify_append (components_ne_nil _)
      (components_ne_nil _), qualify_components, qualify_components]

theorem mentions_spec {m : Mention} (hm : m ∈ objects.flatMap (mentionsOf objects)) :
    m.owner ∈ objects.map Container.qualifiedName ∧
      m.target ∈ objects.map Container.qualifiedName ∧
      (m.kind = .aggregation ∨ m.kind = .composition) := by
  obtain ⟨c, hc, hm⟩ := List.mem_flatMap.1 hm
  rw [mentionsOf] at hm
  split at hm
  · obtain ⟨type, -, hm⟩ := List.mem_filterMap.1 hm
    obtain ⟨e, he, rfl⟩ := Option.map_eq_some_iff.1 hm
    obtain ⟨d, hd, rfl⟩ := mem_of_endpointOf he
    refine ⟨List.mem_map_of_mem hc, List.mem_map_of_mem hd, ?_⟩
    dsimp only
    split
    · exact .inl rfl
    · exact .inr rfl
  · simp at hm

theorem entries_spec {x : Text × Tally.Entry}
    (hx : x ∈ (Tally.ofMentions (objects.flatMap (mentionsOf objects))).entries) :
    x.1 ∈ objects.map Container.qualifiedName ∧
      x.2.target ∈ objects.map Container.qualifiedName ∧
      (x.2.kind = .aggregation ∨ x.2.kind = .composition) := by
  obtain ⟨hpos, hcount⟩ := Tally.mem_entries_iff.1 hx
  exact mentions_spec (List.count_pos_iff.1 (hcount ▸ hpos))

/-- The endpoint of the first container of a qualified name. -/
def listedEnd (objects : List Container) (name : Text) : Endpoint :=
  ((listed objects name).map Container.endpoint).getD ⟨name, []⟩

def entryLink (objects : List Container) (x : Text × Tally.Entry) : Link :=
  Link.aggregates (listedEnd objects x.1) (listedEnd objects x.2.target) x.2.count x.2.kind

theorem listedEnd_eq {name : Text} (h : name ∈ objects.map Container.qualifiedName) :
    ∃ c ∈ objects, listed objects name = some c ∧ listedEnd objects name = c.endpoint ∧
      c.qualifiedName = name := by
  obtain ⟨c, hc, rfl⟩ := List.mem_map.1 h
  have hsome : (listed objects c.qualifiedName).isSome := by
    rw [listed, List.find?_isSome]
    exact ⟨c, hc, by simp⟩
  obtain ⟨d, hd⟩ := Option.isSome_iff_exists.1 hsome
  have hend : listedEnd objects c.qualifiedName = d.endpoint := by
    rw [listedEnd, hd]
    rfl
  exact ⟨d, List.mem_of_find?_eq_some hd, hd, hend, by simpa using List.find?_some hd⟩

/-- If the names of all entries are listed, every entry gives its own link. -/
theorem aggregationLinks_eq {xs : List (Text × Tally.Entry)}
    (h : ∀ x ∈ xs, x.1 ∈ objects.map Container.qualifiedName ∧
      x.2.target ∈ objects.map Container.qualifiedName)
    (before : Option (Endpoint × Endpoint)) :
    aggregationLinks objects before xs = (xs.map (entryLink objects), none) := by
  induction xs generalizing before with
  | nil => rfl
  | cons x xs ih =>
    obtain ⟨howner, htarget⟩ := h x (by simp)
    obtain ⟨c, -, hc, hcend, -⟩ := listedEnd_eq howner
    obtain ⟨d, -, hd, hdend, -⟩ := listedEnd_eq htarget
    have hends : entryEnds objects x.1 x.2.target before = .ok (c.endpoint, d.endpoint) := by
      simp only [entryEnds, hc, hd]
    have hrest := ih fun y hy => h y (by simp [hy])
    simp only [aggregationLinks, hends, hrest, List.map_cons, entryLink, hcend, hdend]

variable (hobjects : ∀ c ∈ objects, c.IsNamed)
include hobjects

theorem inheritance_eq :
    inheritance objects = (objects.flatMap (inheritanceOf objects), none) :=
  successes_flatMap fun c _ => successes_map fun base _ =>
    resolve_bind_map hobjects .equal base c.innerScope fun _ _ => rfl

theorem dependency_eq :
    dependency objects = (objects.flatMap (dependencyOf objects), none) := by
  refine successes_flatMap fun c _ => successes_flatMap fun o _ => successes_map fun p _ => ?_
  have hresolve := resolve_bind_map hobjects .word p.type c.innerScope
    (f := fun d => Link.depends d.endpoint c.endpoint) (g := fun d => Link.depends d c.endpoint)
    fun _ _ => rfl
  obtain ⟨found, hfound, hlink⟩ := bind_eq_ok_iff.1 hresolve
  rw [hfound, ok_bind, pure_eq_ok]
  by_cases hself : p.type = c.name
  · rw [if_pos hself, if_pos hself]
  · rw [if_neg hself, if_neg hself]
    exact hlink

theorem nesting_eq : nesting objects = (objects.filterMap (nestingOf objects), none) := by
  refine successes_map fun c _ => ?_
  cases hparent : c.parent with
  | none => simp [nestingOf, hparent]
  | some parent =>
    by_cases hnil : parent = []
    · simp [nestingOf, hparent, hnil]
    · simp only [nestingOf, hparent, hnil, if_false]
      exact resolve_bind_map hobjects .word parent c.innerScope fun _ _ => rfl

/-- The mentions of all classes, container by container. -/
theorem mentions_eq :
    successes (mentionAttempts objects) = (objects.flatMap (mentionsOf objects), none) := by
  have hclass : ∀ c ∈ objects.filter Container.isClass,
      successes (c.attributeTypes.map (mention objects c)) = (mentionsOf objects c, none) := by
    intro c hc
    obtain ⟨hmem, hclass⟩ := List.mem_filter.1 hc
    rw [mentionsOf, if_pos hclass]
    refine successes_map fun type _ => ?_
    refine resolve_bind_map hobjects .word type c.innerScope fun d hd => ?_
    rw [countedName_eq (hobjects c hmem).isProper, countedName_eq (hobjects d hd).isProper]
    rfl
  rw [mentionAttempts, successes_flatMap hclass, flatMap_filter fun _ => mentionsOf_of_not_isClass]

/-- The aggregation links are those of the tally of all mentions. -/
theorem aggregation_eq :
    aggregation objects =
      ((Tally.ofMentions (objects.flatMap (mentionsOf objects))).entries.map (entryLink objects),
        none) := by
  obtain ⟨hmentions, hnone⟩ := Prod.mk.inj (mentions_eq hobjects)
  unfold aggregation
  dsimp only
  rw [hmentions, hnone]
  refine aggregationLinks_eq (fun x hx => ?_) none
  obtain ⟨howner, htarget, -⟩ := entries_spec hx
  exact ⟨howner, htarget⟩

end Relations

/-- From containers named by identifiers all links are built without a fault. -/
theorem Diagram.buildLinks_eq (withDependencies : Bool) {d : Diagram}
    (hobjects : ∀ c ∈ d.objects, c.IsNamed) :
    d.buildLinks withDependencies =
      ({ d with
          inheritance := (Relations.inheritance d.objects).1
          aggregation := (Relations.aggregation d.objects).1
          nesting := (Relations.nesting d.objects).1
          dependency :=
            if withDependencies then (Relations.dependency d.objects).1 else d.dependency },
        none) := by
  have hinheritance := congrArg Prod.snd (Relations.inheritance_eq hobjects)
  have haggregation := congrArg Prod.snd (Relations.aggregation_eq hobjects)
  have hnesting := congrArg Prod.snd (Relations.nesting_eq hobjects)
  have hdependency := congrArg Prod.snd (Relations.dependency_eq hobjects)
  dsimp only at hinheritance haggregation hnesting hdependency
  cases withDependencies <;>
    simp [buildLinks, Result.andThen, buildInheritance, buildAggregation, buildNesting,
      buildDependency, hinheritance, haggregation, hnesting, hdependency]

end

end ClassDiagram
