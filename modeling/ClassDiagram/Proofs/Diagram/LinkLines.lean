import ClassDiagram.Proofs.Diagram.Arrangement
import ClassDiagram.Proofs.Diagram.Grounding
import ClassDiagram.Proofs.Diagram.Layout

/-!
# The lines of links

A link is drawn as one line. The names in it hold no blanks and have dots in the place of `::`, so a
line tells the qualified names of both ends and the kind of the link. Links that are fixed by those
can be told apart by their lines (`Legible.of_joins`), and a drawing tells the order of such links
(`Diagram.renderStandard_eq_iff`).
-/
namespace ClassDiagram
open Text

namespace Text

/-- A text with `::` in the place of each dot. -/
def undotted (t : Text) : Text := t.flatMap fun c => if c = '.' then colons else [c]

theorem undotted_append (s t : Text) : undotted (s ++ t) = undotted s ++ undotted t :=
  List.flatMap_append

theorem undotted_cons {c : Char} (hc : c ≠ '.') (t : Text) :
    undotted (c :: t) = c :: undotted t := by
  simp [undotted, hc]

theorem undotted_dot (t : Text) : undotted ('.' :: t) = colons ++ undotted t := by
  simp [undotted]

theorem undotted_eq_self {t : Text} (h : '.' ∉ t) : undotted t = t := by
  induction t with
  | nil => rfl
  | cons c t ih =>
    rw [List.mem_cons, not_or] at h
    rw [undotted_cons (Ne.symm h.1), ih h.2]

theorem mem_undotted {t : Text} {c : Char} (h : c ∈ t) (hc : c ≠ '.') : c ∈ undotted t :=
  List.mem_flatMap.2 ⟨c, h, by simp [hc]⟩

theorem undotted_dotted {t : Text} (h : '.' ∉ t) : undotted (Namespace.dotted t) = t := by
  unfold Namespace.dotted
  fun_induction components t with
  | case1 => rfl
  | case2 r ih =>
    have hjoin : joinWith ['.'] ([] :: components r) = '.' :: joinWith ['.'] (components r) := by
      obtain ⟨w, ws, hr⟩ := List.exists_cons_of_ne_nil (components_ne_nil r)
      rw [hr]
      rfl
    rw [hjoin, undotted_dot, ih fun hr => h (by simp [hr])]
    rfl
  | case3 c r _ hr => exact absurd hr (components_ne_nil r)
  | case4 c r _ w ws hr ih =>
    rw [List.mem_cons, not_or] at h
    have hjoin : joinWith ['.'] ((c :: w) :: ws) = c :: joinWith ['.'] (w :: ws) := by
      cases ws <;> rfl
    rw [hjoin, undotted_cons (Ne.symm h.1), ← hr, ih h.2]

end Text

theorem Endpoint.undotted_render (dots : Bool) {e : Endpoint} (hname : '.' ∉ e.name)
    (hns : '.' ∉ e.ns) : undotted (e.render dots) = e.qualifiedName := by
  rw [render, qualifiedName]
  split
  · exact undotted_eq_self hname
  · rw [undotted_append, undotted_dotted hns, undotted_dot, List.append_assoc]
    cases dots with
    | false => rw [if_neg (by decide), undotted_eq_self hname]
    | true => rw [if_pos rfl, undotted_dotted hname]

namespace Container.IsNamed
variable {c : Container} (h : c.IsNamed) (dots : Bool)
include h

theorem undotted_render : undotted (c.endpoint.render dots) = c.qualifiedName := by
  have hdot : ∀ {t : Text}, IsQualified t → '.' ∉ t := fun ht hmem =>
    (ht.isWord_or_colon hmem).elim (by decide) (by decide)
  refine Endpoint.undotted_render dots (hdot h.name) fun hmem => ?_
  exact hdot (h.ns (List.ne_nil_of_mem hmem)) hmem

/-- No blank and no line feed is in a name as a link shows it. -/
theorem notMem_render {x : Char} (hword : isWord x = false) (hcolon : x ≠ ':') (hdot : x ≠ '.') :
    x ∉ c.endpoint.render dots := by
  intro hx
  have hmem := mem_undotted hx hdot
  rw [h.undotted_render] at hmem
  rcases (isQualified_qualifiedName h).isWord_or_colon hmem with hx | hx
  · simp [hword] at hx
  · exact hcolon hx

end Container.IsNamed

section
variable {α : Type} {a b r s : List α} {x : α}

/-- A list is cut in one way at the first occurrence of an element. -/
theorem append_cons_inj_first (ha : x ∉ a) (hb : x ∉ b) (h : a ++ x :: r = b ++ x :: s) :
    a = b ∧ r = s := by
  induction a generalizing b with
  | nil =>
    cases b with
    | nil => exact ⟨rfl, (List.cons.inj h).2⟩
    | cons y b => exact absurd (by simp [(List.cons.inj h).1]) hb
  | cons y a ih =>
    cases b with
    | nil => exact absurd (by simp [(List.cons.inj h).1]) ha
    | cons z b =>
      obtain ⟨rfl, htail⟩ := List.cons.inj h
      obtain ⟨rfl, rfl⟩ := ih (fun hx => ha (by simp [hx])) (fun hx => hb (by simp [hx])) htail
      exact ⟨rfl, rfl⟩

/-- It is cut in one way at the last occurrence too. -/
theorem append_cons_inj_last (hr : x ∉ r) (hs : x ∉ s) (h : a ++ x :: r = b ++ x :: s) :
    a = b ∧ r = s := by
  have hrev : r.reverse ++ x :: a.reverse = s.reverse ++ x :: b.reverse := by
    simpa using congrArg List.reverse h
  obtain ⟨hrs, hab⟩ := append_cons_inj_first (by simpa using hr) (by simpa using hs) hrev
  exact ⟨List.reverse_injective hab, List.reverse_injective hrs⟩

end

/-- The only line feed of a text stands at its end. -/
def IsLine (t : Text) : Prop := ∃ body, '\n' ∉ body ∧ t = body ++ ['\n']

theorem LinkKind.notMem_arrow {k : LinkKind} {arrow : Text} (h : k.arrow = .ok arrow) {x : Char}
    (hx : x = ' ' ∨ x = '\n') : x ∉ arrow := by
  cases k <;> cases h <;> rcases hx with rfl | rfl <;> decide

theorem LinkKind.arrow_injective {k k' : LinkKind} {arrow : Text} (h : k.arrow = .ok arrow)
    (h' : k'.arrow = .ok arrow) : k = k' := by
  cases k <;> cases h <;> cases k' <;> simp [LinkKind.arrow] at h' ⊢

namespace Link

theorem newline_notMem_countMark (n : Int) : '\n' ∉ countMark n := by
  have hdigits : ∀ m, '\n' ∉ Nat.toDigits 10 m := fun m hm =>
    absurd (Nat.isDigit_of_mem_toDigits (by decide) (by decide) hm) (by decide)
  rw [countMark]
  split
  · simp
  · cases n with
    | ofNat n => simpa [decimal] using hdigits n
    | negSucc n => simpa [decimal] using hdigits (n + 1)

/-- There is a blank in front of the arrow, with or without a number. -/
theorem exists_cons_countMark (n : Int) : ∃ u, ' ' :: countMark n = u ++ [' '] := by
  rw [countMark]
  split
  · exact ⟨[], rfl⟩
  · exact ⟨' ' :: '\x22' :: decimal n ++ ['\x22'], by simp⟩

variable {l l' : Link}

theorem render_eq_ok_iff {t : Text} :
    l.render = .ok t ↔ ∃ arrow, l.kind.arrow = .ok arrow ∧
      t = l.parent.render l.dots ++ ' ' :: countMark l.count ++ arrow
        ++ ' ' :: l.child.render l.dots ++ ['\n'] := by
  simp only [render, bind_eq_ok_iff, pure_eq_ok, Except.ok.injEq, eq_comm (a := t)]

section
variable {objects : List Container} (hnamed : ∀ c ∈ objects, c.IsNamed) {t : Text}
include hnamed

theorem undotted_end {e : Endpoint} (he : e ∈ objects.map Container.endpoint) (dots : Bool) :
    undotted (e.render dots) = e.qualifiedName := by
  obtain ⟨c, hc, rfl⟩ := List.mem_map.1 he
  exact (hnamed c hc).undotted_render dots

theorem notMem_end {e : Endpoint} (he : e ∈ objects.map Container.endpoint) (dots : Bool) {x : Char}
    (hx : x = ' ' ∨ x = '\n') : x ∉ e.render dots := by
  obtain ⟨c, hc, rfl⟩ := List.mem_map.1 he
  rcases hx with rfl | rfl <;>
    exact (hnamed c hc).notMem_render dots (by decide) (by decide) (by decide)

theorem isLine_of_render (hl : l.Joins objects) (h : l.render = .ok t) : IsLine t := by
  obtain ⟨arrow, harrow, rfl⟩ := render_eq_ok_iff.1 h
  refine ⟨_, ?_, rfl⟩
  have hparent := notMem_end hnamed hl.1 l.dots (.inr rfl)
  have hchild := notMem_end hnamed hl.2 l.dots (.inr rfl)
  have hmark := newline_notMem_countMark l.count
  have harrow := LinkKind.notMem_arrow harrow (.inr rfl)
  simp [hparent, hchild, hmark, harrow]

/-- A line tells the qualified names of both ends of a link and its kind. -/
theorem eq_of_render (hl : l.Joins objects) (hl' : l'.Joins objects) (h : l.render = .ok t)
    (h' : l'.render = .ok t) :
    l.parent.qualifiedName = l'.parent.qualifiedName ∧
      l.child.qualifiedName = l'.child.qualifiedName ∧ l.kind = l'.kind := by
  obtain ⟨arrow, harrow, rfl⟩ := render_eq_ok_iff.1 h
  obtain ⟨arrow', harrow', hline⟩ := render_eq_ok_iff.1 h'
  obtain ⟨hline, hchild⟩ := append_cons_inj_last (notMem_end hnamed hl.2 l.dots (.inl rfl))
    (notMem_end hnamed hl'.2 l'.dots (.inl rfl)) (List.append_cancel_right hline)
  obtain ⟨u, hu⟩ := exists_cons_countMark l.count
  obtain ⟨u', hu'⟩ := exists_cons_countMark l'.count
  have hblanks : (l.parent.render l.dots ++ u) ++ ' ' :: arrow =
      (l'.parent.render l'.dots ++ u') ++ ' ' :: arrow' := by
    simpa [hu, hu'] using hline
  obtain ⟨-, rfl⟩ := append_cons_inj_last (LinkKind.notMem_arrow harrow (.inl rfl))
    (LinkKind.notMem_arrow harrow' (.inl rfl)) hblanks
  obtain ⟨hparent, -⟩ := append_cons_inj_first (notMem_end hnamed hl.1 l.dots (.inl rfl))
    (notMem_end hnamed hl'.1 l'.dots (.inl rfl)) (List.append_cancel_right hline)
  refine ⟨?_, ?_, LinkKind.arrow_injective harrow harrow'⟩
  · rw [← undotted_end hnamed hl.1 l.dots, hparent, undotted_end hnamed hl'.1]
  · rw [← undotted_end hnamed hl.2 l.dots, hchild, undotted_end hnamed hl'.2]

end

/-- The line of a link; there is none for an unknown kind. -/
def line (l : Link) : Text :=
  match l.render with
  | .ok t => t
  | .error _ => []

end Link

/-- Links that are drawn as lines by which they can be told apart. -/
structure Legible (links : List Link) : Prop where
  render : ∀ l ∈ links, l.render = .ok l.line
  isLine : ∀ l ∈ links, IsLine l.line
  apart : ∀ l ∈ links, ∀ l' ∈ links, l.line = l'.line → l = l'

namespace Legible
variable {links links' : List Link}

theorem subset (h : Legible links) (hsub : links' ⊆ links) : Legible links' where
  render l hl := h.render l (hsub hl)
  isLine l hl := h.isLine l (hsub hl)
  apart l hl l' hl' := h.apart l (hsub hl) l' (hsub hl')

theorem mapM_render (h : Legible links) : links.mapM Link.render = .ok (links.map Link.line) :=
  mapM_eq_ok h.render

/-- Links between identified containers are legible if the ends and the kind fix the link. -/
theorem of_joins {objects : List Container} (h : Identified objects)
    (hjoins : ∀ l ∈ links, l.Joins objects)
    (harrow : ∀ l ∈ links, ∃ arrow, l.kind.arrow = .ok arrow)
    (hfixed : ∀ l ∈ links, ∀ l' ∈ links, l.parent = l'.parent → l.child = l'.child →
      l.kind = l'.kind → l = l') : Legible links := by
  have hrender : ∀ l ∈ links, l.render = .ok l.line := by
    intro l hl
    obtain ⟨arrow, harrow⟩ := harrow l hl
    rw [Link.line, Link.render_eq_ok_iff.2 ⟨arrow, harrow, rfl⟩]
  refine ⟨hrender, fun l hl => Link.isLine_of_render h.named (hjoins l hl) (hrender l hl), ?_⟩
  intro l hl l' hl' hline
  obtain ⟨hparent, hchild, hkind⟩ := Link.eq_of_render h.named (hjoins l hl) (hjoins l' hl')
    (hrender l hl) (hline ▸ hrender l' hl')
  exact hfixed l hl l' hl' (h.eq_of_qualifiedName (hjoins l hl).1 (hjoins l' hl').1 hparent)
    (h.eq_of_qualifiedName (hjoins l hl).2 (hjoins l' hl').2 hchild) hkind

end Legible

/-- The same lines in another order. -/
structure SameLines (xs ys : List Text) : Prop where
  perm : xs.Perm ys
  isLine : ∀ t ∈ xs, IsLine t

theorem eq_of_spaced_eq {xs ys : List Text} (hxs : ∀ t ∈ xs, IsLine t) (hys : ∀ t ∈ ys, IsLine t)
    (h : Template.spaced xs = Template.spaced ys) : xs = ys := by
  induction xs generalizing ys with
  | nil =>
    cases ys with
    | nil => rfl
    | cons t ys => simp at h
  | cons t xs ih =>
    cases ys with
    | nil => simp at h
    | cons t' ys =>
      obtain ⟨body, hbody, rfl⟩ := hxs t (by simp)
      obtain ⟨body', hbody', rfl⟩ := hys t' (by simp)
      have hcut : body ++ '\n' :: '\n' :: Template.spaced xs =
          body' ++ '\n' :: '\n' :: Template.spaced ys := by simpa using h
      obtain ⟨rfl, hrest⟩ := append_cons_inj_first hbody hbody' hcut
      rw [ih (fun t ht => hxs t (by simp [ht])) (fun t ht => hys t (by simp [ht]))
        (List.cons.inj hrest).2]

/-- The lines of a section are read off the text that starts with it. -/
theorem SameLines.of_append {xs ys : List Text} (h : SameLines xs ys) {r r' : Text}
    (htext : Template.spaced xs ++ r = Template.spaced ys ++ r') : xs = ys ∧ r = r' := by
  have hlength : (Template.spaced xs).length = (Template.spaced ys).length :=
    (h.perm.flatMap_right _).length_eq
  obtain ⟨hspaced, hr⟩ := List.append_inj htext hlength
  exact ⟨eq_of_spaced_eq h.isLine (fun t ht => h.isLine t (h.perm.mem_iff.2 ht)) hspaced, hr⟩

/-- A text tells the order of the lines in each section. -/
theorem Layout.eq_of_text {s s' : Layout} (hobjects : s.objects = s'.objects)
    (hinheritance : SameLines s.inheritance s'.inheritance)
    (haggregation : SameLines s.aggregation s'.aggregation)
    (hdependency : Option.Rel SameLines s.dependency s'.dependency)
    (hnesting : SameLines s.nesting s'.nesting) (h : s.text = s'.text) : s = s' := by
  obtain ⟨objects, inheritance, aggregation, dependency, nesting⟩ := s
  obtain ⟨objects', inheritance', aggregation', dependency', nesting'⟩ := s'
  dsimp only at hobjects hinheritance haggregation hdependency hnesting
  subst hobjects
  unfold text front back sectionText at h
  simp only [List.append_assoc, List.append_cancel_left_eq] at h
  obtain ⟨rfl, h⟩ := hinheritance.of_append h
  simp only [List.append_cancel_left_eq] at h
  obtain ⟨rfl, h⟩ := haggregation.of_append h
  simp only [List.append_cancel_left_eq] at h
  cases hdependency with
  | none =>
    simp only [Option.map_none, Option.getD_none, List.append_cancel_left_eq] at h
    obtain ⟨rfl, -⟩ := hnesting.of_append h
    rfl
  | some hlines =>
    unfold dependencyText sectionText at h
    simp only [Option.map_some, Option.getD_some, List.append_assoc,
      List.append_cancel_left_eq] at h
    obtain ⟨rfl, h⟩ := hlines.of_append h
    simp only [List.append_cancel_left_eq] at h
    obtain ⟨rfl, -⟩ := hnesting.of_append h
    rfl

/-- The same legible links in another order. -/
structure Reordered (links links' : List Link) : Prop where
  perm : links.Perm links'
  legible : Legible links

namespace Reordered
variable {links links' : List Link} (h : Reordered links links')
include h

theorem legible' : Legible links' := h.legible.subset h.perm.symm.subset

theorem sameLines : SameLines (links.map Link.line) (links'.map Link.line) where
  perm := h.perm.map _
  isLine t ht := by
    obtain ⟨l, hl, rfl⟩ := List.mem_map.1 ht
    exact h.legible.isLine l hl

/-- The lines tell the order of the links. -/
theorem eq_of_lines (hline : links.map Link.line = links'.map Link.line) : links = links' := by
  refine List.ext_getElem h.perm.length_eq fun i hi hi' => ?_
  refine h.legible.apart _ (List.getElem_mem hi) _ (h.perm.mem_iff.2 (List.getElem_mem hi')) ?_
  have hlineAt := List.getElem_of_eq hline (by rw [List.length_map]; exact hi)
  rwa [List.getElem_map, List.getElem_map] at hlineAt

end Reordered

namespace Diagram

/-- The layout of a diagram whose links can all be drawn. -/
def lines (withDependencies : Bool) (d : Diagram) (objects : List Text) : Layout where
  objects
  inheritance := d.inheritance.map Link.line
  aggregation := d.aggregation.map Link.line
  dependency := if withDependencies then some (d.dependency.map Link.line) else none
  nesting := d.nesting.map Link.line

theorem renderStandard_of_legible (withDependencies : Bool) {d : Diagram}
    (hinheritance : Legible d.inheritance) (haggregation : Legible d.aggregation)
    (hdependency : Legible d.dependency) (hnesting : Legible d.nesting) :
    d.renderStandard withDependencies =
      (Tree.renderAll (Forest.ofObjects d.objects)).map fun objects =>
        (d.lines withDependencies objects).text := by
  have hdrawings : d.dependencyDrawings withDependencies =
      .ok (if withDependencies then some (d.dependency.map Link.line) else none) := by
    cases withDependencies with
    | false => rfl
    | true => rw [dependencyDrawings, if_pos rfl, hdependency.mapM_render]; rfl
  rw [renderStandard_eq, layout, hinheritance.mapM_render, haggregation.mapM_render, hdrawings,
    hnesting.mapM_render]
  cases Tree.renderAll (Forest.ofObjects d.objects) <;> rfl

/-- Two diagrams that differ in the order of their links only are drawn differently, unless the
containers cannot be drawn. -/
theorem renderStandard_eq_iff (withDependencies : Bool) {d e : Diagram}
    (hobjects : d.objects = e.objects) (hinheritance : Reordered d.inheritance e.inheritance)
    (haggregation : Reordered d.aggregation e.aggregation)
    (hdependency : Reordered d.dependency e.dependency)
    (hnesting : Reordered d.nesting e.nesting) :
    d.renderStandard withDependencies = e.renderStandard withDependencies ↔
      (∀ text, d.renderStandard withDependencies ≠ .ok text) ∨
        d.inheritance = e.inheritance ∧ d.aggregation = e.aggregation ∧
          (withDependencies = true → d.dependency = e.dependency) ∧ d.nesting = e.nesting := by
  rw [renderStandard_of_legible withDependencies hinheritance.legible haggregation.legible
      hdependency.legible hnesting.legible,
    renderStandard_of_legible withDependencies hinheritance.legible' haggregation.legible'
      hdependency.legible' hnesting.legible', ← hobjects]
  cases Tree.renderAll (Forest.ofObjects d.objects) with
  | error f => simp [Except.map]
  | ok objects =>
    have hrel : Option.Rel SameLines (d.lines withDependencies objects).dependency
        (e.lines withDependencies objects).dependency := by
      cases withDependencies with
      | true => exact .some hdependency.sameLines
      | false => exact .none
    constructor
    · intro h
      have hlines : d.lines withDependencies objects = e.lines withDependencies objects :=
        Layout.eq_of_text rfl hinheritance.sameLines haggregation.sameLines hrel
          hnesting.sameLines (Except.ok.inj h)
      refine .inr ⟨hinheritance.eq_of_lines (congrArg Layout.inheritance hlines),
        haggregation.eq_of_lines (congrArg Layout.aggregation hlines), ?_,
        hnesting.eq_of_lines (congrArg Layout.nesting hlines)⟩
      rintro rfl
      exact hdependency.eq_of_lines (Option.some.inj (congrArg Layout.dependency hlines))
    · rintro (h | ⟨hinheritance, haggregation, hdependency, hnesting⟩)
      · exact absurd rfl (h _)
      · have hlines : d.lines withDependencies objects = e.lines withDependencies objects := by
          cases withDependencies with
          | true => simp [lines, hinheritance, haggregation, hdependency rfl, hnesting]
          | false => simp [lines, hinheritance, haggregation, hnesting]
        rw [Except.map, Except.map, hlines]

end Diagram

end ClassDiagram
