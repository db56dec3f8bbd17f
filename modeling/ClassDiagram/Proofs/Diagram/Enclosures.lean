import ClassDiagram.Proofs.Diagram.Mentions

/-!
# Which containers are linked to the ones around them

A nested container knows the name of the container around it. That name is looked up like the types
of attributes, as a whole word, though it is one word or several joined by `::`. An identifier has no
whole word but itself, so the look-up goes to the nearest container that is called like the last
component of the name (`endpointOf_word_iff`).

A container that is not nested itself is found that way, unless a container of its name stands in a
namespace between the two. One that is nested is never found, since its name has several components
and only the last of them is looked up. So the link is missing from the second level of nesting on,
or goes to a container outside that happens to be called like the last component.
-/
namespace ClassDiagram
open Text

variable {d : Diagram}

/-- A name whose last component is an identifier stands for the nearest container of this name, also
if it is looked up as a whole word. -/
theorem Diagram.endpointOf_word_iff (hnamed : ∀ c ∈ d.objects, c.IsNamed) {name : Text}
    (hname : IsIdentifier (lookedUp name)) {scope : List Text} {e : Endpoint} :
    endpointOf .word name scope d.objects = some e ↔
      ∃ c, d.IsNearest (lookedUp name) (lookupPath name scope) c ∧ c.endpoint = e := by
  rw [endpointOf_word_eq_some_iff hnamed]
  simp only [isLeftmost_iff_isNearest hnamed hname]

theorem isIdentifier_lookedUp {name : Text} (h : IsQualified name) :
    IsIdentifier (lookedUp name) := by
  rw [lookedUp, List.getLast?_eq_some_getLast (components_ne_nil name), Option.getD_some]
  exact h.isIdentifier (List.getLast_mem (components_ne_nil name))

/-- The links whose child is a container. -/
def linksTo (c : Container) (links : List Link) : List Link :=
  links.filter fun l => l.child = c.endpoint

namespace Relations
variable {objects : List Container}

theorem child_of_nestingOf {c : Container} {l : Link} (h : nestingOf objects c = some l) :
    l.child = c.endpoint := by
  unfold nestingOf at h
  split at h
  · simp at h
  · split at h
    · simp at h
    · obtain ⟨p, -, rfl⟩ := Option.map_eq_some_iff.1 h
      rfl

/-- Among containers with qualified names of their own, the nesting links of each are those found
for it alone. -/
theorem linksTo_nesting (hobjects : Identified objects) {c : Container} (hc : c ∈ objects) :
    linksTo c (objects.filterMap (nestingOf objects)) = (nestingOf objects c).toList := by
  have hchild : ∀ x l, nestingOf objects x = some l → l.child = x.endpoint :=
    fun _ _ => child_of_nestingOf
  generalize nestingOf objects = found at hchild
  have hnodup : (objects.map Container.endpoint).Nodup := by
    refine List.Nodup.of_map Endpoint.qualifiedName ?_
    rw [List.map_map]
    exact hobjects.qualifiedNames
  clear hobjects
  induction objects with
  | nil => simp at hc
  | cons x xs ih =>
    obtain ⟨hx, hxs⟩ := List.nodup_cons.1 hnodup
    rcases List.mem_cons.1 hc with rfl | hc
    · have hrest : linksTo c (xs.filterMap found) = [] := by
        refine List.filter_eq_nil_iff.2 fun l hl hlc => hx ?_
        obtain ⟨y, hy, hl⟩ := List.mem_filterMap.1 hl
        have hend : y.endpoint = c.endpoint := (hchild y l hl).symm.trans (by simpa using hlc)
        exact hend ▸ List.mem_map_of_mem hy
      cases hfound : found c with
      | none => rw [List.filterMap_cons_none hfound, hrest, Option.toList_none]
      | some l =>
        rw [List.filterMap_cons_some hfound, linksTo,
          List.filter_cons_of_pos (by simpa using hchild c l hfound)]
        exact congrArg (l :: ·) hrest
    · have hne : x.endpoint ≠ c.endpoint := fun hend => hx (hend ▸ List.mem_map_of_mem hc)
      cases hfound : found x with
      | none => rw [List.filterMap_cons_none hfound, ih hc hxs]
      | some l =>
        rw [List.filterMap_cons_some hfound, linksTo,
          List.filter_cons_of_neg (by simpa [hchild x l hfound] using hne)]
        exact ih hc hxs

end Relations

namespace Diagram

section
variable (hd : Identified d.objects) {o : Container} (ho : o ∈ d.objects) {name : Text}
  (hparent : o.parent = some name) (hname : IsQualified name)
include hd ho hparent hname

theorem linksTo_nesting_eq :
    linksTo o (Relations.nesting d.objects).1 =
      ((endpointOf .word name o.scope d.objects).map fun p => Link.nests p o.endpoint).toList := by
  have hne : name ≠ [] := by
    rintro rfl
    exact absurd hname.hasWordEnds (by decide)
  rw [Relations.nesting_eq hd.named, Relations.linksTo_nesting hd ho, Relations.nestingOf, hparent,
    Container.innerScope_eq_scope (hd.named o ho)]
  simp only [hne, if_false]

theorem linksTo_eq_singleton_iff {l : Link} :
    linksTo o (Relations.nesting d.objects).1 = [l] ↔
      ∃ p, d.IsNearest (lookedUp name) (lookupPath name o.scope) p ∧
        l = Link.nests p.endpoint o.endpoint := by
  have hfound : ∀ e, endpointOf .word name o.scope d.objects = some e ↔ _ := fun e =>
    endpointOf_word_iff hd.named (isIdentifier_lookedUp hname)
  rw [linksTo_nesting_eq hd ho hparent hname, Option.toList_eq_singleton_iff,
    Option.map_eq_some_iff]
  constructor
  · rintro ⟨e, he, rfl⟩
    obtain ⟨p, hp, rfl⟩ := (hfound e).1 he
    exact ⟨p, hp, rfl⟩
  · rintro ⟨p, hp, rfl⟩
    exact ⟨p.endpoint, (hfound _).2 ⟨p, hp, rfl⟩, rfl⟩

theorem linksTo_eq_nil_iff :
    linksTo o (Relations.nesting d.objects).1 = [] ↔
      ∀ p, ¬ d.IsNearest (lookedUp name) (lookupPath name o.scope) p := by
  constructor
  · intro hnil p hp
    have hsingle := (linksTo_eq_singleton_iff hd ho hparent hname).2 ⟨p, hp, rfl⟩
    simp [hnil] at hsingle
  · intro hnone
    have heq := linksTo_nesting_eq hd ho hparent hname
    cases hfound : endpointOf .word name o.scope d.objects with
    | none => rw [heq, hfound, Option.map_none, Option.toList_none]
    | some e =>
      obtain ⟨p, hp, -⟩ :=
        (endpointOf_word_iff hd.named (isIdentifier_lookedUp hname)).1 hfound
      exact absurd hp (hnone p)

end

/-- When the look-up of a name leads to the container of this name around another one: it is not
nested itself, and no other container of its name stands in a scope between them. -/
theorem isNearest_enclosing_iff {o e : Container} (he : e ∈ d.objects) (henamed : e.IsNamed)
    (honamed : o.IsNamed) (hns : e.ns = o.ns) :
    d.IsNearest (lookedUp e.name) (lookupPath e.name o.scope) e ↔
      IsIdentifier e.name ∧ ∀ c ∈ d.objects, c.name = e.name → c.scope <+: o.scope →
        c.scope.length ≤ e.scope.length := by
  constructor
  · intro h
    have hname := h.isIdentifier henamed
    rw [lookedUp_of_not_colons hname.not_colons, lookupPath_of_not_colons hname.not_colons] at h
    exact ⟨hname, h.nearest⟩
  · rintro ⟨hname, hnearest⟩
    rw [lookedUp_of_not_colons hname.not_colons, lookupPath_of_not_colons hname.not_colons]
    refine ⟨he, rfl, ?_, hnearest⟩
    rw [Container.scope_of_isIdentifier henamed hname, Container.scope_eq honamed, hns]
    exact List.prefix_append _ _

/-- Among containers with qualified names of their own, let a container say that it stands in another
one of its namespace. It then has one nesting link or none: to the nearest container that is called
like the last component of the name around it. That is the container around it exactly if this one
is not nested itself, and if no other container of its name stands in a scope between them. -/
theorem buildNesting_enclosing (d : Diagram) (hd : Identified d.objects) {o e : Container}
    (ho : o ∈ d.objects) (he : e ∈ d.objects) (hparent : o.parent = some e.name)
    (hns : e.ns = o.ns) :
    ∃ links, d.buildNesting = ({ d with nesting := links }, none) ∧
      (linksTo o links = [] ↔
        ∀ p, ¬ d.IsNearest (lookedUp e.name) (lookupPath e.name o.scope) p) ∧
      (∀ l, linksTo o links = [l] ↔
        ∃ p, d.IsNearest (lookedUp e.name) (lookupPath e.name o.scope) p ∧
          l = Link.nests p.endpoint o.endpoint) ∧
      (linksTo o links = [Link.nests e.endpoint o.endpoint] ↔
        IsIdentifier e.name ∧ ∀ c ∈ d.objects, c.name = e.name → c.scope <+: o.scope →
          c.scope.length ≤ e.scope.length) := by
  have henamed := hd.named e he
  have hsingle : ∀ l, linksTo o (Relations.nesting d.objects).1 = [l] ↔ _ := fun l =>
    linksTo_eq_singleton_iff hd ho hparent henamed.name
  have hbuild : d.buildNesting = ({ d with nesting := (Relations.nesting d.objects).1 }, none) := by
    rw [buildNesting, Relations.nesting_eq hd.named]
  refine ⟨_, hbuild, linksTo_eq_nil_iff hd ho hparent henamed.name, hsingle, ?_⟩
  rw [hsingle, ← isNearest_enclosing_iff he henamed (hd.named o ho) hns]
  constructor
  · rintro ⟨p, hp, hlink⟩
    have hend : e.endpoint = p.endpoint := congrArg Link.parent hlink
    obtain rfl := hd.eq_of_endpoint he hp.mem hend
    exact hp
  · intro h
    exact ⟨e, h, rfl⟩

def classInside (name ns parent : Text) : Container :=
  { classNamed name ns with parent := some parent }

def dolls : Diagram :=
  { objects := [classNamed "Derived".toList "alpha".toList,
      classInside "Derived::Inner".toList "alpha".toList "Derived".toList,
      classInside "Derived::Inner::InnerInner".toList "alpha".toList "Derived::Inner".toList] }

/-- The class in the middle is linked to the outer one. -/
theorem buildNesting_enclosing_middle :
    ∃ links, dolls.buildNesting = ({ dolls with nesting := links }, none) ∧
      linksTo (classInside "Derived::Inner".toList "alpha".toList "Derived".toList) links =
        [Link.nests ⟨"Derived".toList, "alpha".toList⟩ ⟨"Derived::Inner".toList, "alpha".toList⟩] := by
  obtain ⟨links, hbuild, -, -, hlinked⟩ := buildNesting_enclosing dolls
    (o := classInside "Derived::Inner".toList "alpha".toList "Derived".toList)
    (e := classNamed "Derived".toList "alpha".toList)
    (by decide +kernel) (by decide +kernel) (by decide +kernel) rfl rfl
  exact ⟨links, hbuild, hlinked.2 (by decide +kernel)⟩

/-- The innermost class has no link, though the class around it is there. -/
theorem buildNesting_misses_inner :
    Identified dolls.objects ∧
      classInside "Derived::Inner".toList "alpha".toList "Derived".toList ∈ dolls.objects ∧
      dolls.buildNesting.2 = none ∧
      linksTo (classInside "Derived::Inner::InnerInner".toList "alpha".toList
        "Derived::Inner".toList) dolls.buildNesting.1.nesting = [] := by
  decide +kernel

end Diagram

end ClassDiagram
