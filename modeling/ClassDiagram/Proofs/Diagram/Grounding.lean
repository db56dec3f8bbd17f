import ClassDiagram.Diagram.Command
import ClassDiagram.Proofs.Diagram.Resolution

/-!
# Links join containers of the diagram

Whatever the containers are called, a link is only ever made between two of them, also in a list
that stops at a fault. A diagram is grounded if all of its links are like that. Every command keeps
a diagram grounded, whether it stops at a fault or not: containers are only added, put in order or
all removed together with the links.
-/
namespace ClassDiagram
open Text

/-- A header with one class, with the given bases and types of attributes. -/
def Header.ofClass (name ns : Text) (bases types : List Text) : Header :=
  { classes := [(name,
      { declarationMethod := some "class".toList, abstract := some false, template := none
        inherits := some (bases.map some)
        place := { written := ns, enclosing := [] }
        properties := some
          { privatePart := some (types.map fun type =>
              { name := some "x".toList, static := some false, type := some type, array := false
                deleted := false })
            publicPart := some [], protectedPart := some [] }
        methods := some { privatePart := some [], publicPart := some [], protectedPart := some [] }
        enums := none })]
    enums := [] }

/-- The types of the parameters of all operations. -/
def Container.parameterTypes (c : Container) : List Text :=
  c.operations.flatMap fun o => o.parameters.map Parameter.type

namespace Relations
variable {objects : List Container} {l : Link}

/-- A link that is made from a resolved name is made from a container. -/
theorem exists_of_resolve_map {cmp : Comparison} {name : Text} {scope : List Text}
    {f : Container → Link}
    (h : (do return (← resolve cmp name scope objects).map f) = Except.ok (some l)) :
    ∃ p ∈ objects, l = f p := by
  obtain ⟨found, hfound, h⟩ := bind_eq_ok_iff.1 h
  obtain ⟨p, rfl, rfl⟩ := Option.map_eq_some_iff.1 (Except.ok.inj h)
  exact ⟨p, mem_of_resolve hfound, rfl⟩

theorem exists_of_mem_inheritance (h : l ∈ (inheritance objects).1) :
    ∃ p ∈ objects, ∃ c ∈ objects, l = Link.inherits p.endpoint c.endpoint := by
  obtain ⟨c, hc, h⟩ := List.mem_flatMap.1 (mem_of_mem_successes h)
  obtain ⟨base, -, h⟩ := List.mem_map.1 h
  obtain ⟨p, hp, rfl⟩ := exists_of_resolve_map h
  exact ⟨p, hp, c, hc, rfl⟩

/-- A dependency link is made from the type of a parameter that is written unlike the name of the
class. -/
theorem exists_resolve_of_mem_dependency (h : l ∈ (dependency objects).1) :
    ∃ c ∈ objects, ∃ type ∈ c.parameterTypes, type ≠ c.name ∧
      ∃ p, resolve .word type c.innerScope objects = .ok (some p) ∧
        l = Link.depends p.endpoint c.endpoint := by
  obtain ⟨c, hc, h⟩ := List.mem_flatMap.1 (mem_of_mem_successes h)
  obtain ⟨o, ho, h⟩ := List.mem_flatMap.1 h
  obtain ⟨parameter, hparameter, h⟩ := List.mem_map.1 h
  obtain ⟨found, hfound, h⟩ := bind_eq_ok_iff.1 h
  split at h
  · simp at h
  · rename_i hne
    obtain ⟨p, rfl, rfl⟩ := Option.map_eq_some_iff.1 (Except.ok.inj h)
    have htype : parameter.type ∈ c.parameterTypes :=
      List.mem_flatMap.2 ⟨o, ho, List.mem_map_of_mem hparameter⟩
    exact ⟨c, hc, parameter.type, htype, hne, p, hfound, rfl⟩

theorem exists_of_mem_dependency (h : l ∈ (dependency objects).1) :
    ∃ p ∈ objects, ∃ c ∈ objects, l = Link.depends p.endpoint c.endpoint := by
  obtain ⟨c, hc, _, -, -, p, hp, rfl⟩ := exists_resolve_of_mem_dependency h
  exact ⟨p, mem_of_resolve hp, c, hc, rfl⟩

theorem exists_of_mem_nesting (h : l ∈ (nesting objects).1) :
    ∃ p ∈ objects, ∃ c ∈ objects, l = Link.nests p.endpoint c.endpoint := by
  obtain ⟨c, hc, h⟩ := List.mem_map.1 (mem_of_mem_successes h)
  split at h
  · simp at h
  · split at h
    · simp at h
    · obtain ⟨p, hp, rfl⟩ := exists_of_resolve_map h
      exact ⟨p, hp, c, hc, rfl⟩

/-- The ends of an entry are containers, given that the pair before it was one of containers. -/
theorem exists_of_entryEnds {owner target : Text} {before : Option (Endpoint × Endpoint)}
    {ends : Endpoint × Endpoint}
    (hbefore : ∀ x ∈ before, ∃ c ∈ objects, ∃ d ∈ objects, x = (c.endpoint, d.endpoint))
    (h : entryEnds objects owner target before = .ok ends) :
    ∃ c ∈ objects, ∃ d ∈ objects, ends = (c.endpoint, d.endpoint) := by
  unfold entryEnds at h
  split at h
  · rename_i c hc
    split at h
    · rename_i d hd
      exact ⟨c, List.mem_of_find?_eq_some hc, d, List.mem_of_find?_eq_some hd,
        (Except.ok.inj h).symm⟩
    · simp at h
  · split at h
    · obtain rfl := Except.ok.inj h
      exact hbefore _ rfl
    · simp at h

theorem exists_of_mem_aggregationLinks {entries : List (Text × Tally.Entry)}
    {before : Option (Endpoint × Endpoint)}
    (hbefore : ∀ x ∈ before, ∃ c ∈ objects, ∃ d ∈ objects, x = (c.endpoint, d.endpoint))
    (h : l ∈ (aggregationLinks objects before entries).1) :
    ∃ c ∈ objects, ∃ d ∈ objects, ∃ count kind,
      l = Link.aggregates c.endpoint d.endpoint count kind := by
  induction entries generalizing before with
  | nil => simp [aggregationLinks] at h
  | cons x entries ih =>
    rw [aggregationLinks] at h
    split at h
    · simp at h
    · rename_i ends hends
      obtain ⟨c, hc, d, hd, rfl⟩ := exists_of_entryEnds hbefore hends
      rcases List.mem_cons.1 h with rfl | h
      · exact ⟨c, hc, d, hd, _, _, rfl⟩
      · refine ih ?_ h
        rintro _ ⟨rfl⟩
        exact ⟨c, hc, d, hd, rfl⟩

theorem exists_of_mem_aggregation (h : l ∈ (aggregation objects).1) :
    ∃ c ∈ objects, ∃ d ∈ objects, ∃ count kind,
      l = Link.aggregates c.endpoint d.endpoint count kind := by
  unfold aggregation at h
  dsimp only at h
  split at h
  · simp at h
  · exact exists_of_mem_aggregationLinks (by simp) h

end Relations

/-- Both ends of a link are containers of the list. -/
def Link.Joins (objects : List Container) (l : Link) : Prop :=
  l.parent ∈ objects.map Container.endpoint ∧ l.child ∈ objects.map Container.endpoint

namespace Diagram

/-- All links join containers of the diagram. -/
structure Grounded (d : Diagram) : Prop where
  inheritance : ∀ l ∈ d.inheritance, l.Joins d.objects
  aggregation : ∀ l ∈ d.aggregation, l.Joins d.objects
  dependency : ∀ l ∈ d.dependency, l.Joins d.objects
  nesting : ∀ l ∈ d.nesting, l.Joins d.objects

theorem grounded_empty : Grounded {} := by
  constructor <;> simp

variable {d : Diagram}

/-- The containers may be replaced by any that have all of their endpoints. -/
theorem Grounded.mono (h : d.Grounded) {objects : List Container}
    (hsub : d.objects.map Container.endpoint ⊆ objects.map Container.endpoint) :
    Grounded { d with objects } where
  inheritance l hl := (h.inheritance l hl).imp (hsub ·) (hsub ·)
  aggregation l hl := (h.aggregation l hl).imp (hsub ·) (hsub ·)
  dependency l hl := (h.dependency l hl).imp (hsub ·) (hsub ·)
  nesting l hl := (h.nesting l hl).imp (hsub ·) (hsub ·)

theorem Grounded.andThen {r : Result} {next : Diagram → Result} (h : r.1.Grounded)
    (hnext : ∀ d : Diagram, d.Grounded → (next d).1.Grounded) : (r.andThen next).1.Grounded :=
  Result.andThen_keeps h hnext

theorem Grounded.read (h : d.Grounded) (source : Source) : (d.read source).1.Grounded := by
  cases source with
  | error f => exact h
  | ok header =>
    refine h.mono ?_
    rw [List.map_append]
    exact List.subset_append_left _ _

theorem Grounded.readAll (h : d.Grounded) (sources : List Source) :
    (d.readAll sources).1.Grounded := by
  induction sources generalizing d with
  | nil => exact h
  | cons s sources ih => exact (h.read s).andThen fun d hd => ih hd

theorem Grounded.buildInheritance (h : d.Grounded) : d.buildInheritance.1.Grounded := by
  refine { h with inheritance := fun l hl => ?_ }
  obtain ⟨p, hp, c, hc, rfl⟩ := Relations.exists_of_mem_inheritance hl
  exact ⟨List.mem_map_of_mem hp, List.mem_map_of_mem hc⟩

theorem Grounded.buildAggregation (h : d.Grounded) : d.buildAggregation.1.Grounded := by
  refine { h with aggregation := fun l hl => ?_ }
  obtain ⟨p, hp, c, hc, _, _, rfl⟩ := Relations.exists_of_mem_aggregation hl
  exact ⟨List.mem_map_of_mem hp, List.mem_map_of_mem hc⟩

theorem Grounded.buildDependency (h : d.Grounded) : d.buildDependency.1.Grounded := by
  refine { h with dependency := fun l hl => ?_ }
  obtain ⟨p, hp, c, hc, rfl⟩ := Relations.exists_of_mem_dependency hl
  exact ⟨List.mem_map_of_mem hp, List.mem_map_of_mem hc⟩

theorem Grounded.buildNesting (h : d.Grounded) : d.buildNesting.1.Grounded := by
  refine { h with nesting := fun l hl => ?_ }
  obtain ⟨p, hp, c, hc, rfl⟩ := Relations.exists_of_mem_nesting hl
  exact ⟨List.mem_map_of_mem hp, List.mem_map_of_mem hc⟩

theorem Grounded.buildLinks (h : d.Grounded) (withDependencies : Bool) :
    (d.buildLinks withDependencies).1.Grounded := by
  refine h.buildInheritance.andThen fun d hd => ?_
  refine hd.buildAggregation.andThen fun d hd => ?_
  refine hd.buildNesting.andThen fun d hd => ?_
  split
  · exact hd.buildDependency
  · exact hd

theorem Grounded.sort (h : d.Grounded) : d.sort.Grounded := by
  have hobjects : d.objects.map Container.endpoint ⊆ d.sort.objects.map Container.endpoint := by
    intro e he
    obtain ⟨c, hc, rfl⟩ := List.mem_map.1 he
    have hsorted : c.sortMembers ∈ d.sort.objects := List.mem_map_of_mem (mem_sortBy.2 hc)
    exact List.mem_map.2 ⟨c.sortMembers, hsorted, rfl⟩
  have hlinks : ∀ links : List Link, (∀ l ∈ links, l.Joins d.objects) →
      ∀ l ∈ sortBy Link.key links, l.Joins d.sort.objects := by
    intro links hlinks l hl
    exact (hlinks l (mem_sortBy.1 hl)).imp (hobjects ·) (hobjects ·)
  exact ⟨hlinks _ h.inheritance, hlinks _ h.aggregation, hlinks _ h.dependency, hlinks _ h.nesting⟩

theorem Grounded.build (h : d.Grounded) (withDependencies reset lists : Bool)
    (sources : List Source) : (d.build withDependencies reset lists sources).1.Grounded := by
  have hstart : (if reset then {} else d).Grounded := by
    cases reset with
    | true => exact grounded_empty
    | false => exact h
  refine (hstart.readAll sources).andThen fun d hd => ?_
  cases lists with
  | true => exact (hd.buildLinks withDependencies).andThen fun d hd => hd.sort
  | false => exact hd

/-- Every command keeps a diagram grounded, also one that stops at a fault. -/
theorem Grounded.apply (h : d.Grounded) (withDependencies : Bool) (command : Command) :
    (command.apply withDependencies d).1.Grounded := by
  cases command with
  | create sources => exact h.build withDependencies true true sources
  | add sources => exact h.build false false false sources
  | build reset lists sources => exact h.build withDependencies reset lists sources
  | clear => exact grounded_empty
  | sort => exact h.sort
  | buildLinks => exact h.buildLinks withDependencies
  | buildInheritance => exact h.buildInheritance
  | buildAggregation => exact h.buildAggregation
  | buildDependency => exact h.buildDependency
  | buildNesting => exact h.buildNesting

/-- A diagram is grounded after every history. -/
theorem grounded_afterCommands (withDependencies : Bool) (commands : List Command) :
    (afterCommands withDependencies commands).Grounded := by
  have hrun : ∀ d : Diagram, d.Grounded →
      (commands.foldl (fun d c => (c.apply withDependencies d).1) d).Grounded := by
    induction commands with
    | nil => exact fun d hd => hd
    | cons c commands ih => exact fun d hd => ih _ (hd.apply withDependencies c)
  exact hrun {} grounded_empty

end Diagram

end ClassDiagram
