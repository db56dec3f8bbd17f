import ClassDiagram.Proofs.Diagram.Arrangement
import ClassDiagram.Proofs.Diagram.Lookup
import Mathlib.Data.List.Infix

/-!
# Which containers classes extend

The base of a class is looked up by its last component, along the path that consists of the scope of
the class and the other components of the base. The path is shortened from its end, so the
qualifiers of the base are given up before the scope of the class is. `Diagram.IsNearest` says which
container is found that way, and `mem_inheritance_iff` that the inheritance links are those to the
nearest containers of the bases.

So the link for a base goes to a container that is called like its last component, but the
qualifiers may be lost on the way, and a base that is written with its full qualified name may be
missed: the path leads to it only if it begins with the scope of the base, as it does inside the
namespace of the base, and never if the base is nested in another container.
-/
namespace ClassDiagram
open Text

namespace Diagram

/-- A container of a name in a prefix of a path, such that none of this name stands in a longer
prefix. -/
structure IsNearest (d : Diagram) (word : Text) (path : List Text) (c : Container) : Prop where
  mem : c ∈ d.objects
  name : c.name = word
  scope : c.scope <+: path
  nearest : ∀ o ∈ d.objects, o.name = word → o.scope <+: path → o.scope.length ≤ c.scope.length

instance (d : Diagram) (word : Text) (path : List Text) (c : Container) :
    Decidable (d.IsNearest word path c) :=
  decidable_of_iff (c ∈ d.objects ∧ c.name = word ∧ c.scope <+: path ∧
    ∀ o ∈ d.objects, o.name = word → o.scope <+: path → o.scope.length ≤ c.scope.length)
    ⟨fun ⟨h, h', h'', h'''⟩ => ⟨h, h', h'', h'''⟩, fun h => ⟨h.mem, h.name, h.scope, h.nearest⟩⟩

variable {d : Diagram} {word : Text} {path : List Text} {c p : Container}

theorem isNearest_of_denotes {i : Nat} (h : d.Denotes .equal word path i c) :
    d.IsNearest word path c := by
  obtain ⟨hi, scope, -, hscope, ⟨rfl, hname⟩, -, hlongest, -⟩ := h
  refine ⟨List.mem_of_getElem? hi, hname, hscope, fun o ho honame hoscope => ?_⟩
  exact Nat.le_of_not_lt fun hlt => hlongest o.scope hoscope hlt o ho ⟨rfl, honame⟩

theorem IsNearest.endpoint_eq (hnamed : ∀ c ∈ d.objects, c.IsNamed) {c' : Container}
    (h : d.IsNearest word path c) (h' : d.IsNearest word path c') : c.endpoint = c'.endpoint := by
  have hle := h.nearest c' h'.mem h'.name h'.scope
  have hle' := h'.nearest c h.mem h.name h.scope
  have hscope : c.scope = c'.scope :=
    (List.prefix_of_prefix_length_le h.scope h'.scope hle').eq_of_length (by omega)
  exact Container.endpoint_eq_of_scope (hnamed c h.mem) (hnamed c' h'.mem)
    (h.name.trans h'.name.symm) hscope

/-- A name stands for the container that a rule singles out, if the rule agrees with the look-up, goes
for containers that answer only, and for one name and namespace at most. -/
theorem endpointOf_eq_some_iff_of_denotes (hnamed : ∀ c ∈ d.objects, c.IsNamed) {cmp : Comparison}
    {name : Text} {scope : List Text} {e : Endpoint} {rule : Container → Prop}
    (hdenotes : ∀ i c, d.Denotes cmp (lookedUp name) (lookupPath name scope) i c → rule c)
    (hanswers : ∀ c, rule c → c ∈ d.objects ∧
      ∃ around, around <+: lookupPath name scope ∧ c.Answers cmp (lookedUp name) around)
    (hunique : ∀ c c', rule c → rule c' → c.endpoint = c'.endpoint) :
    endpointOf cmp name scope d.objects = some e ↔ ∃ c, rule c ∧ c.endpoint = e := by
  rw [endpointOf_eq_some_iff]
  rcases find_cases (fun c hc => (hnamed c hc).isSearchable) cmp name scope with
    ⟨hfind, hnone⟩ | ⟨i, o, hfind, ho⟩
  · constructor
    · rintro ⟨i, c, hfound, -⟩
      simp [hfind] at hfound
    · rintro ⟨c, hc, -⟩
      obtain ⟨hmem, around, haround, hc⟩ := hanswers c hc
      exact absurd hc (hnone around haround c hmem)
  · constructor
    · rintro ⟨j, c, hfound, rfl⟩
      obtain ⟨rfl, rfl⟩ : i = j ∧ o = c := by simpa [hfind] using hfound
      exact ⟨o, hdenotes i o ho, rfl⟩
    · rintro ⟨c, hc, rfl⟩
      exact ⟨i, o, hfind, hunique o c (hdenotes i o ho) hc⟩

/-- A name that has to be met exactly stands for the nearest container of its last component. -/
theorem endpointOf_equal_iff (hnamed : ∀ c ∈ d.objects, c.IsNamed) {name : Text}
    {scope : List Text} {e : Endpoint} :
    endpointOf .equal name scope d.objects = some e ↔
      ∃ c, d.IsNearest (lookedUp name) (lookupPath name scope) c ∧ c.endpoint = e := by
  refine endpointOf_eq_some_iff_of_denotes hnamed (fun i c => isNearest_of_denotes) ?_ ?_
  · intro c hc
    exact ⟨hc.mem, c.scope, hc.scope, rfl, hc.name⟩
  · intro c c' hc hc'
    exact hc.endpoint_eq hnamed hc'

/-- The inheritance links join each class and the nearest containers of its bases. -/
theorem mem_inheritance_iff (hnamed : ∀ c ∈ d.objects, c.IsNamed) {l : Link} :
    l ∈ (Relations.inheritance d.objects).1 ↔
      ∃ c ∈ d.objects, ∃ base ∈ c.bases, ∃ p,
        d.IsNearest (lookedUp base) (lookupPath base c.scope) p ∧
          l = Link.inherits p.endpoint c.endpoint := by
  rw [Relations.inheritance_eq hnamed, List.mem_flatMap]
  refine exists_congr fun c => and_congr_right fun hc => ?_
  rw [Relations.inheritanceOf, Container.innerScope_eq_scope (hnamed c hc), List.mem_filterMap]
  refine exists_congr fun base => and_congr_right fun _ => ?_
  simp only [Option.map_eq_some_iff, endpointOf_equal_iff hnamed]
  constructor
  · rintro ⟨_, ⟨p, hp, rfl⟩, rfl⟩
    exact ⟨p, hp, rfl⟩
  · rintro ⟨p, hp, rfl⟩
    exact ⟨_, ⟨p, hp, rfl⟩, rfl⟩

theorem IsNearest.isIdentifier (hp : p.IsNamed) {name : Text}
    (h : d.IsNearest (lookedUp name) path p) : IsIdentifier p.name := by
  refine hp.name.isIdentifier_of_not_colons ?_
  rw [h.name]
  exact not_colons_isInfix_getLast name

/-- The nearest container has the qualifiers of the base exactly if the base, read from one of the
scopes around the class, is its qualified name. -/
theorem IsNearest.isSuffix_iff (hp : p.IsNamed) {base : Text} {scope : List Text}
    (h : d.IsNearest (lookedUp base) (lookupPath base scope) p) :
    base.components <:+ p.qualifiedName.components ↔
      ∃ around, around <+: scope ∧ p.scope = around ++ base.components.dropLast := by
  have hname := h.isIdentifier hp
  have hbase : base.components = base.components.dropLast ++ [p.name] := by
    rw [h.name, lookedUp, List.getLast?_eq_some_getLast (components_ne_nil base), Option.getD_some,
      List.dropLast_append_getLast]
  have hqualified := Container.components_of_isIdentifier hp hname
  constructor
  · rintro ⟨around, hsplit⟩
    rw [hbase, hqualified, ← List.append_assoc] at hsplit
    have hscope : around ++ base.components.dropLast = p.scope := List.append_cancel_right hsplit
    refine ⟨around, ?_, hscope.symm⟩
    have hpath := h.scope
    rw [← hscope, lookupPath] at hpath
    have hlength := hpath.length_le
    rw [List.length_append, List.length_append] at hlength
    exact List.prefix_of_prefix_length_le ((List.prefix_append _ _).trans hpath)
      (List.prefix_append _ _) (by omega)
  · rintro ⟨around, -, hscope⟩
    refine ⟨around, ?_⟩
    rw [hqualified, hscope, List.append_assoc, ← hbase]

def classExtending (name ns : Text) (bases : List Text) : Container :=
  { classNamed name ns with trait := .classifier false none bases }

/-- The inheritance links are those to the nearest containers of the bases. A link goes to a
container whose qualified name ends in the components of the base exactly if it is the base as read
from one of the scopes around the class. That is so if the base has no qualifiers, and if a
container of its last component stands where the path of the look-up ends. -/
theorem buildInheritance_qualifiers (d : Diagram) (hnamed : ∀ c ∈ d.objects, c.IsNamed) :
    ∃ links, d.buildInheritance = ({ d with inheritance := links }, none) ∧
      (∀ l, l ∈ links ↔ ∃ c ∈ d.objects, ∃ base ∈ c.bases, ∃ p,
        d.IsNearest (lookedUp base) (lookupPath base c.scope) p ∧
          l = Link.inherits p.endpoint c.endpoint) ∧
      ∀ c ∈ d.objects, ∀ base ∈ c.bases, ∀ p,
        d.IsNearest (lookedUp base) (lookupPath base c.scope) p →
        (base.components <:+ p.qualifiedName.components ↔
          ∃ around, around <+: c.scope ∧ p.scope = around ++ base.components.dropLast) ∧
        (base.components.dropLast = [] ∨
          (∃ o ∈ d.objects, o.name = lookedUp base ∧ o.scope = lookupPath base c.scope) →
          base.components <:+ p.qualifiedName.components) := by
  refine ⟨_, by rw [buildInheritance, Relations.inheritance_eq hnamed], ?_, ?_⟩
  · intro l
    rw [← mem_inheritance_iff hnamed, Relations.inheritance_eq hnamed]
  · intro c _ base _ p hp
    have hiff := hp.isSuffix_iff (hnamed p hp.mem)
    refine ⟨hiff, ?_⟩
    rintro (hnone | ⟨o, ho, honame, hoscope⟩)
    · refine hiff.2 ⟨p.scope, ?_, by rw [hnone, List.append_nil]⟩
      have hscope := hp.scope
      rwa [lookupPath, hnone, List.append_nil] at hscope
    · refine hiff.2 ⟨c.scope, List.prefix_rfl, ?_⟩
      have hle := hp.nearest o ho honame (by rw [hoscope])
      rw [hoscope] at hle
      exact hp.scope.eq_of_length_le hle

/-- Two classes `P`, of which the base `a::P` in the namespace `n` means the inner one. -/
def keptBase : Diagram :=
  { objects := [classNamed "P".toList "n".toList, classNamed "P".toList "n::a".toList,
      classExtending "D".toList "n".toList ["a::P".toList]] }

theorem buildInheritance_qualifiers_kept :
    ∃ links, keptBase.buildInheritance = ({ keptBase with inheritance := links }, none) ∧
      Link.inherits ⟨"P".toList, "n::a".toList⟩ ⟨"D".toList, "n".toList⟩ ∈ links ∧
      components "a::P".toList <:+ components "n::a::P".toList := by
  have hnearest : keptBase.IsNearest (lookedUp "a::P".toList)
      (lookupPath "a::P".toList ["n".toList]) (classNamed "P".toList "n::a".toList) := by
    decide +kernel
  have hclass : classExtending "D".toList "n".toList ["a::P".toList] ∈ keptBase.objects := by
    decide +kernel
  obtain ⟨links, hbuild, hlinks, hkept⟩ := buildInheritance_qualifiers keptBase (by decide +kernel)
  refine ⟨links, hbuild, ?_, ?_⟩
  · exact (hlinks _).2 ⟨_, hclass, _, List.mem_singleton_self _, _, hnearest, rfl⟩
  · exact (hkept _ hclass _ (List.mem_singleton_self _) _ hnearest).2
      (.inr ⟨_, hnearest.mem, by decide +kernel⟩)

/-- A class `P` and a class in the same namespace `b`, which extends another `P`. -/
def strayBase : Diagram :=
  { objects := [classNamed "P".toList "b".toList,
      classExtending "D".toList "b".toList ["a::P".toList]] }

/-- The base `a::P` of a class in the namespace `b` is taken for `b::P`. -/
theorem buildInheritance_loses_qualifier :
    (∀ c ∈ strayBase.objects, c.IsNamed) ∧
      strayBase.buildInheritance.1.inheritance =
        [Link.inherits ⟨"P".toList, "b".toList⟩ ⟨"D".toList, "b".toList⟩] ∧
      ¬ components "a::P".toList <:+ components "b::P".toList := by
  decide +kernel

/-- Whether a qualified name, read from one of the inner scopes around a class, is that of another
container. -/
def Hidden (d : Diagram) (c p : Container) : Prop :=
  ∃ o ∈ d.objects, o ≠ p ∧
    ∃ s ∈ c.scope.inits, s ≠ [] ∧ o.qualifiedName = qualify (s ++ p.qualifiedName.components)

instance (d : Diagram) (c p : Container) : Decidable (d.Hidden c p) :=
  inferInstanceAs (Decidable (∃ o ∈ d.objects, _))

/-- When the look-up of a qualified name leads to the container itself: it is not nested, the path
passes through its scope, and no other container of its name stands further on. -/
theorem isNearest_qualifiedName_iff (hp : p.IsNamed) (hmem : p ∈ d.objects) (scope : List Text) :
    d.IsNearest (lookedUp p.qualifiedName) (lookupPath p.qualifiedName scope) p ↔
      IsIdentifier p.name ∧ p.scope <+: scope ++ p.scope ∧
        ∀ o ∈ d.objects, o.name = p.name → o.scope <+: scope ++ p.scope →
          o.scope.length ≤ p.scope.length := by
  constructor
  · intro h
    refine ⟨h.isIdentifier hp, h.scope, fun o ho hname hscope => ?_⟩
    exact h.nearest o ho (hname.trans h.name) hscope
  · rintro ⟨hname, hscope, hnearest⟩
    have hword : lookedUp p.qualifiedName = p.name := by
      rw [lookedUp, Container.components_of_isIdentifier hp hname, List.getLast?_concat,
        Option.getD_some]
    exact ⟨hmem, hword.symm, hscope, fun o ho honame => hnearest o ho (honame.trans hword)⟩

/-- At top level, and for a base at top level, the path leads to the base unless it is hidden. -/
theorem isNearest_qualifiedName_of_top (hnamed : ∀ c ∈ d.objects, c.IsNamed) (hp : p ∈ d.objects)
    (hname : IsIdentifier p.name) (htop : c.scope = [] ∨ p.scope = []) (hfree : ¬ d.Hidden c p) :
    d.IsNearest (lookedUp p.qualifiedName) (lookupPath p.qualifiedName c.scope) p := by
  rw [isNearest_qualifiedName_iff (hnamed p hp) hp]
  refine ⟨hname, ?_, fun o ho honame hoscope => ?_⟩
  · rcases htop with htop | htop <;> simp [htop]
  rcases htop with htop | htop
  · rw [htop, List.nil_append] at hoscope
    exact hoscope.length_le
  · rw [htop, List.append_nil] at hoscope
    rw [htop, List.length_nil, Nat.le_zero, List.length_eq_zero_iff]
    by_contra hne
    -- A container of this name in an inner scope around the class would hide the base.
    refine hfree ⟨o, ho, ?_, o.scope, (List.mem_inits _ _).2 hoscope, hne, ?_⟩
    · rintro rfl
      exact hne htop
    · rw [Container.components_of_isIdentifier (hnamed p hp) hname, htop, List.nil_append, ← honame,
        ← Container.components_of_isIdentifier (hnamed o ho) (honame ▸ hname), qualify_components]

/-- Among containers with qualified names of their own, a link joins a class and a container exactly
if the look-up of one of its bases leads there. For a base that is written in full, that is so if it
is not nested, its scope begins the path, and no container of its name stands further on along the
path. In particular a base that is not nested and not hidden is linked if the class or the base
stands at top level. -/
theorem buildInheritance_qualified_base (d : Diagram) (hd : Identified d.objects) {p c : Container}
    (hp : p ∈ d.objects) (hc : c ∈ d.objects) (hbase : p.qualifiedName ∈ c.bases) :
    ∃ links, d.buildInheritance = ({ d with inheritance := links }, none) ∧
      (Link.inherits p.endpoint c.endpoint ∈ links ↔
        ∃ base ∈ c.bases, d.IsNearest (lookedUp base) (lookupPath base c.scope) p) ∧
      (d.IsNearest (lookedUp p.qualifiedName) (lookupPath p.qualifiedName c.scope) p ↔
        IsIdentifier p.name ∧ p.scope <+: c.scope ++ p.scope ∧
          ∀ o ∈ d.objects, o.name = p.name → o.scope <+: c.scope ++ p.scope →
            o.scope.length ≤ p.scope.length) ∧
      (IsIdentifier p.name → c.scope = [] ∨ p.scope = [] → ¬ d.Hidden c p →
        Link.inherits p.endpoint c.endpoint ∈ links) := by
  have hmem : Link.inherits p.endpoint c.endpoint ∈ (Relations.inheritance d.objects).1 ↔
      ∃ base ∈ c.bases, d.IsNearest (lookedUp base) (lookupPath base c.scope) p := by
    rw [mem_inheritance_iff hd.named]
    constructor
    · rintro ⟨c', hc', base, hbase', p', hp', hlink⟩
      obtain ⟨hpp, hcc⟩ : p.endpoint = p'.endpoint ∧ c.endpoint = c'.endpoint := by
        simpa [Link.inherits] using hlink
      obtain rfl := hd.eq_of_endpoint hp hp'.mem hpp
      obtain rfl := hd.eq_of_endpoint hc hc' hcc
      exact ⟨base, hbase', hp'⟩
    · rintro ⟨base, hbase', hp'⟩
      exact ⟨c, hc, base, hbase', p, hp', rfl⟩
  have hbuild : d.buildInheritance =
      ({ d with inheritance := (Relations.inheritance d.objects).1 }, none) := by
    rw [buildInheritance, Relations.inheritance_eq hd.named]
  refine ⟨_, hbuild, hmem, isNearest_qualifiedName_iff (hd.named p hp) hp c.scope, ?_⟩
  intro hname htop hfree
  exact hmem.2 ⟨_, hbase, isNearest_qualifiedName_of_top hd.named hp hname htop hfree⟩

/-- A class at top level that extends one of two classes of the same name. -/
def deepBase : Diagram :=
  { objects := [classNamed "A".toList "first::second".toList, classNamed "A".toList [],
      classExtending "D".toList [] ["first::second::A".toList]] }

theorem buildInheritance_qualified_base_deep :
    ∃ links, deepBase.buildInheritance = ({ deepBase with inheritance := links }, none) ∧
      Link.inherits ⟨"A".toList, "first::second".toList⟩ ⟨"D".toList, []⟩ ∈ links := by
  obtain ⟨links, hbuild, -, -, hlinked⟩ := buildInheritance_qualified_base deepBase
    (p := classNamed "A".toList "first::second".toList)
    (c := classExtending "D".toList [] ["first::second::A".toList])
    (by decide +kernel) (by decide +kernel) (by decide +kernel) (by decide +kernel)
  exact ⟨links, hbuild, hlinked (by decide +kernel) (.inl (by decide +kernel)) (by decide +kernel)⟩

/-- A class in one namespace that extends a class in another. -/
def farBase : Diagram :=
  { objects := [classNamed "P".toList "a".toList,
      classExtending "D".toList "m".toList ["a::P".toList]] }

/-- The base `a::P` of a class in the namespace `m` is missed though nothing hides it: the look-up
goes from `m::a` to `m` and to the top level, and never to `a`. -/
theorem buildInheritance_misses_base :
    Identified farBase.objects ∧
      ¬ farBase.Hidden (classExtending "D".toList "m".toList ["a::P".toList])
        (classNamed "P".toList "a".toList) ∧
      farBase.buildInheritance.2 = none ∧
      Link.inherits ⟨"P".toList, "a".toList⟩ ⟨"D".toList, "m".toList⟩ ∉
        farBase.buildInheritance.1.inheritance := by
  decide +kernel

end Diagram

end ClassDiagram
