import ClassDiagram.Proofs.Diagram.LinkLines
import ClassDiagram.Proofs.Forest.Indentation
import ClassDiagram.Proofs.Forest.Shape
import ClassDiagram.Proofs.Text.Braces

/-!
# Drawings have balanced braces

Braces are drawn around the members of a container, around the trees of a namespace block and in the
marks of members. If there are none in the texts that a diagram shows, its drawing is balanced: this
is followed from members through containers, blocks and links to the sections of the standard
template. The ends of links are those of containers after every history, so nothing has to be asked
of the links.
-/
namespace ClassDiagram
open Text

/-- The texts that the line of a member shows. -/
def Member.texts : Member → List Text
  | .attribute a => [a.name, a.type]
  | .operation o => o.name :: o.type :: o.parameters.flatMap fun p => [p.type, p.name]
  | .literal name => [name]

theorem Access.balanced_sign {a : Access} {sign : Text} (h : a.sign = .ok sign) :
    Balanced sign := by
  cases a with
  | other label => simp [Access.sign] at h
  | _ =>
    rw [← Except.ok.inj h]
    exact .of_depthAfter_zero (by decide)

theorem balanced_staticMark (isStatic : Bool) : Balanced (staticMark isStatic) := by
  cases isStatic with
  | false => exact .nil
  | true => exact .of_depthAfter_zero (by decide +kernel)

theorem balanced_typeMark {type : Text} (h : IsBraceFree type) : Balanced (typeMark type) := by
  unfold typeMark
  split
  · exact .nil
  · have hcolon : Balanced " : ".toList := .of_depthAfter_zero (by decide +kernel)
    exact hcolon.append (.of_isBraceFree h)

theorem trim_subset (t : Text) : trim t ⊆ t := by
  intro c hc
  have hfront : c ∈ t.dropWhile isBlank := by
    simpa using (List.dropWhile_sublist _).subset (List.mem_reverse.1 hc)
  exact (List.dropWhile_sublist _).subset hfront

theorem Parameter.balanced_render {p : Parameter} (htype : IsBraceFree p.type)
    (hname : IsBraceFree p.name) : Balanced p.render := by
  have hwhole : IsBraceFree (p.type ++ ' ' :: p.name) := by
    constructor
    · simpa using ⟨htype.1, hname.1⟩
    · simpa using ⟨htype.2, hname.2⟩
  exact .of_isBraceFree (hwhole.of_subset (trim_subset _))

theorem Operation.balanced_signature {o : Operation}
    (h : ∀ t ∈ (Member.operation o).texts, IsBraceFree t) : Balanced o.signature := by
  have hname : IsBraceFree o.name := h o.name (by simp [Member.texts])
  have habstract : Balanced (if o.isAbstract then "\x7babstract\x7d ".toList else []) := by
    split
    · exact .of_depthAfter_zero (by decide +kernel)
    · exact .nil
  have hparameters : ∀ t ∈ o.parameters.map Parameter.render, Balanced t := by
    intro t ht
    obtain ⟨p, hp, rfl⟩ := List.mem_map.1 ht
    have htexts : ∀ t ∈ [p.type, p.name], IsBraceFree t := by
      intro t ht
      have hmem : t ∈ o.parameters.flatMap fun p => [p.type, p.name] :=
        List.mem_flatMap.2 ⟨p, hp, ht⟩
      exact h t (by simp [Member.texts, hmem])
    exact p.balanced_render (htexts _ (by simp)) (htexts _ (by simp))
  have hcomma : Balanced ", ".toList := .of_depthAfter_zero (by decide +kernel)
  have hopening : Balanced ['('] := .of_depthAfter_zero (by decide)
  have hclosing : Balanced [')'] := .of_depthAfter_zero (by decide)
  unfold Operation.signature
  exact ((habstract.append (.of_isBraceFree hname)).append
    (hopening.append (.joinWith hcomma hparameters))).append hclosing

theorem Member.balanced_render {m : Member} (h : ∀ t ∈ m.texts, IsBraceFree t) {text : Text}
    (htext : m.render = .ok text) : Balanced text := by
  obtain a | o | name := m
  · rw [Member.render, Attribute.render] at htext
    obtain ⟨sign, hsign, htext⟩ := bind_eq_ok_iff.1 htext
    have hname : IsBraceFree a.name := h a.name (by simp [Member.texts])
    have htype : IsBraceFree a.type := h a.type (by simp [Member.texts])
    rw [← Except.ok.inj htext]
    exact (((Access.balanced_sign hsign).append (balanced_staticMark _)).append
      (.of_isBraceFree hname)).append (balanced_typeMark htype)
  · rw [Member.render, Operation.render] at htext
    obtain ⟨sign, hsign, htext⟩ := bind_eq_ok_iff.1 htext
    have htype : IsBraceFree o.type := h o.type (by simp [Member.texts])
    have hquery : Balanced (if o.isQuery then " \x7bquery\x7d".toList else []) := by
      split
      · exact .of_depthAfter_zero (by decide +kernel)
      · exact .nil
    dsimp only at htext
    by_cases hmarks : (o.isStatic && o.isAbstract) = true
    · rw [if_pos hmarks] at htext
      have hfault : (.error .staticAbstract : Except Fault Text) = .ok text := htext
      cases hfault
    · rw [if_neg hmarks] at htext
      rw [← Except.ok.inj htext]
      exact ((((Access.balanced_sign hsign).append (balanced_staticMark _)).append
        (Operation.balanced_signature h)).append (balanced_typeMark htype)).append hquery
  · rw [Member.render] at htext
    rw [← Except.ok.inj htext]
    exact .of_isBraceFree (h name (by simp [Member.texts]))

namespace Container

/-- The text of the template parameters, if there are any. -/
def templateText (c : Container) : Option Text :=
  match c.trait with
  | .classifier _ template _ => template
  | .enumeration => none

/-- The texts that the drawing of a container shows: kind, name, namespace, template parameters and
the texts of the members. -/
def texts (c : Container) : List Text :=
  c.kind :: c.name :: c.ns :: c.templateText.toList ++ c.members.flatMap Member.texts

/-- There is no brace in the texts of a container. -/
def IsBraceFree (c : Container) : Prop := ∀ t ∈ c.texts, t.IsBraceFree

instance (c : Container) : Decidable c.IsBraceFree :=
  inferInstanceAs (Decidable (∀ t ∈ c.texts, t.IsBraceFree))

variable {c : Container} (h : c.IsBraceFree)
include h

theorem IsBraceFree.name : Text.IsBraceFree c.name := h c.name (by simp [texts])

theorem IsBraceFree.ns : Text.IsBraceFree c.ns := h c.ns (by simp [texts])

theorem balanced_heading : Balanced c.heading := by
  have hkind : Balanced c.kind := .of_isBraceFree (h c.kind (by simp [texts]))
  have hblank : Balanced [' '] := .of_depthAfter_zero (by decide)
  have hname : Balanced c.name := .of_isBraceFree h.name
  unfold heading
  split
  · exact hkind.append (hblank.append hname)
  · rename_i isAbstract template bases htrait
    have habstract : Balanced (if isAbstract then "abstract ".toList else []) := by
      split
      · exact .of_depthAfter_zero (by decide +kernel)
      · exact .nil
    have hheading : Balanced (headingKind c.kind) := by
      unfold headingKind
      split
      · exact .of_depthAfter_zero (by decide +kernel)
      · exact hkind
    refine ((habstract.append hheading).append (hblank.append hname)).append ?_
    cases template with
    | none => exact .nil
    | some t =>
      have ht : Text.IsBraceFree t := h t (by simp [texts, templateText, htrait])
      have hopening : Balanced " <".toList := .of_depthAfter_zero (by decide +kernel)
      have hclosing : Balanced ">".toList := .of_depthAfter_zero (by decide +kernel)
      exact (hopening.append (.of_isBraceFree ht)).append hclosing

theorem balanced_render {text : Text} (htext : c.render = .ok text) : Balanced text := by
  rw [render] at htext
  obtain ⟨lines, hlines, htext⟩ := bind_eq_ok_iff.1 htext
  have hline : ∀ line ∈ lines, Balanced line := by
    intro line hline
    obtain ⟨m, hm, hline⟩ := exists_of_mem_mapM hlines hline
    obtain ⟨shown, hshown, hline⟩ := bind_eq_ok_iff.1 hline
    have htexts : ∀ t ∈ m.texts, Text.IsBraceFree t := by
      intro t ht
      have hmem : t ∈ c.members.flatMap Member.texts := List.mem_flatMap.2 ⟨m, hm, ht⟩
      exact h t (by simp [texts, hmem])
    have htab : Balanced ['\t'] := .of_depthAfter_zero (by decide)
    have hfeed : Balanced ['\n'] := .of_depthAfter_zero (by decide)
    rw [← Except.ok.inj hline]
    exact htab.append ((Member.balanced_render htexts hshown).append hfeed)
  have hbody : Balanced lines.flatten := by
    rw [← List.flatMap_id]
    exact .flatMap hline
  have hopening : Opens " \x7b\n".toList := .of_depthAfter_zero (by decide +kernel)
  have hclosing : Closes "\x7d\n".toList := .of_depthAfter_one (by decide +kernel)
  rw [← Except.ok.inj htext]
  exact hbody.enclosed ((balanced_heading h).opens hopening) hclosing

end Container

/-- Indenting the lines of a text leaves its braces as they are. -/
theorem Namespace.balanced_wrap {name : Option Text} (hname : Balanced (heading name)) {body : Text}
    (hbody : Balanced body) : Balanced (wrap name body) := by
  have hlines : braces (joinWith ['\n'] (body.splitLines.map indentLine)) = braces body := by
    have hindent : ∀ line, braces (indentLine line) = braces line := by
      intro line
      unfold indentLine
      split
      · rename_i hnil
        rw [hnil]
      · rfl
    rw [braces_joinWith (by decide), List.flatMap_map]
    simp only [hindent]
    exact flatMap_braces_splitLines body
  have hlead : Balanced "namespace ".toList := .of_depthAfter_zero (by decide +kernel)
  have hopening : Opens " \x7b\n".toList := .of_depthAfter_zero (by decide +kernel)
  have hclosing : Closes "\n\x7d\n".toList := .of_depthAfter_one (by decide +kernel)
  exact (hbody.of_braces_eq hlines).enclosed ((hlead.append hname).opens hopening) hclosing

namespace Tree

/-- There is no brace in the texts of the containers of a tree, nor in the names of its blocks. -/
inductive IsBraceFree : Tree → Prop
  | leaf {c : Container} (hc : c.IsBraceFree) : IsBraceFree (.leaf c)
  | block {name : Text} {children : List Tree} (hname : Text.IsBraceFree name)
      (hchildren : ∀ t ∈ children, IsBraceFree t) : IsBraceFree (.block (some name) children)

theorem balanced_render {t : Tree} (h : t.IsBraceFree) {text : Text} (htext : t.render = .ok text) :
    Balanced text := by
  induction h generalizing text with
  | leaf hc =>
    rw [render] at htext
    exact Container.balanced_render hc htext
  | @block name children hname _ ih =>
    rw [render] at htext
    obtain ⟨parts, hparts, htext⟩ := bind_eq_ok_iff.1 htext
    have hpart : ∀ part ∈ parts, Balanced part := by
      intro part hpart
      rw [renderAll_eq_mapM] at hparts
      obtain ⟨t, ht, hpart⟩ := exists_of_mem_mapM hparts hpart
      exact ih t ht hpart
    have hfeed : Balanced ['\n'] := .of_depthAfter_zero (by decide)
    have hheading : Balanced (Namespace.heading (shownName (some name))) := by
      refine .of_isBraceFree (hname.of_subset fun c hc => ?_)
      exact mem_of_mem_components (getLastD_mem_components name) hc
    rw [← Except.ok.inj htext]
    exact Namespace.balanced_wrap hheading (.joinWith hfeed hpart)

end Tree

namespace Forest

/-- The trees of entries without braces have none. -/
theorem isBraceFree_build {depth : Nat} {path : List Text} {entries : List Entry}
    (hpath : ∀ w ∈ path, Text.IsBraceFree w)
    (hentries : ∀ e ∈ entries, e.container.IsBraceFree ∧ ∀ w ∈ e.path, Text.IsBraceFree w) :
    ∀ t ∈ build depth path entries, t.IsBraceFree := by
  induction depth generalizing path entries with
  | zero =>
    intro t ht
    obtain ⟨e, he, rfl⟩ := List.mem_map.1 ht
    exact .leaf (hentries e he).1
  | succ depth ih =>
    intro t ht
    rcases List.mem_append.1 ht with ht | ht
    · obtain ⟨e, he, rfl⟩ := List.mem_map.1 ht
      exact .leaf (hentries e (List.mem_filter.1 he).1).1
    · obtain ⟨w, hw, rfl⟩ := List.mem_map.1 ht
      obtain ⟨e, he, r, hr⟩ := mem_nextComponents.1 hw
      have hnext : ∀ v ∈ path ++ [w], Text.IsBraceFree v := by
        intro v hv
        rcases List.mem_append.1 hv with hv | hv
        · exact hpath v hv
        · rw [List.mem_singleton.1 hv]
          exact (hentries e he).2 w (by simp [hr])
      refine .block (.joinWith (by decide) hnext) (ih hnext fun e' he' => ?_)
      have hmem := hentries _ (mem_enter.1 he')
      exact ⟨hmem.1, fun v hv => hmem.2 v (by simp [hv])⟩

theorem isBraceFree_ofObjects {objects : List Container} (h : ∀ c ∈ objects, c.IsBraceFree) :
    ∀ t ∈ ofObjects objects, t.IsBraceFree := by
  rw [ofObjects_eq]
  refine isBraceFree_build (by simp) fun e he => ?_
  obtain ⟨c, hc, rfl⟩ := List.mem_map.1 he
  refine ⟨h c hc, fun w hw => ?_⟩
  unfold Namespace.parts at hw
  split at hw
  · simp at hw
  · exact (h c hc).ns.of_subset fun x hx => mem_of_mem_components hw hx

end Forest

theorem Namespace.balanced_dotted {t : Text} (h : IsBraceFree t) : Balanced (dotted t) := by
  refine .joinWith (.of_depthAfter_zero (by decide)) fun w hw => ?_
  exact .of_isBraceFree (h.of_subset fun c hc => mem_of_mem_components hw hc)

theorem Endpoint.balanced_render {e : Endpoint} (hname : IsBraceFree e.name)
    (hns : IsBraceFree e.ns) (dots : Bool) : Balanced (e.render dots) := by
  have hplain : Balanced e.name := .of_isBraceFree hname
  have hdot : Balanced ['.'] := .of_depthAfter_zero (by decide)
  have hown : Balanced (if dots then Namespace.dotted e.name else e.name) := by
    split
    · exact Namespace.balanced_dotted hname
    · exact hplain
  unfold Endpoint.render
  split
  · exact hplain
  · exact (Namespace.balanced_dotted hns).append (hdot.append hown)

theorem Link.balanced_countMark (n : Int) : Balanced (countMark n) := by
  have hdigits : ∀ m, IsBraceFree (Nat.toDigits 10 m) := by
    intro m
    constructor
    · intro hm
      exact absurd (Nat.isDigit_of_mem_toDigits (by decide) (by decide) hm) (by decide)
    · intro hm
      exact absurd (Nat.isDigit_of_mem_toDigits (by decide) (by decide) hm) (by decide)
  have hdecimal : Balanced (decimal n) := by
    cases n with
    | ofNat n => exact .of_isBraceFree (hdigits n)
    | negSucc n =>
      have hminus : Balanced ['-'] := .of_depthAfter_zero (by decide)
      exact hminus.append (.of_isBraceFree (hdigits (n + 1)))
  have hquote : Balanced ['\x22'] := .of_depthAfter_zero (by decide)
  have hclosing : Balanced ['\x22', ' '] := .of_depthAfter_zero (by decide)
  unfold countMark
  split
  · exact .nil
  · exact hquote.append (hdecimal.append hclosing)

theorem Link.balanced_render {l : Link} {objects : List Container}
    (hobjects : ∀ c ∈ objects, c.IsBraceFree) (hl : l.Joins objects) {text : Text}
    (htext : l.render = .ok text) : Balanced text := by
  have hend : ∀ e ∈ objects.map Container.endpoint, Balanced (e.render l.dots) := by
    intro e he
    obtain ⟨c, hc, rfl⟩ := List.mem_map.1 he
    exact Endpoint.balanced_render (hobjects c hc).name (hobjects c hc).ns l.dots
  obtain ⟨arrow, harrow, rfl⟩ := render_eq_ok_iff.1 htext
  have hblank : Balanced [' '] := .of_depthAfter_zero (by decide)
  have hfeed : Balanced ['\n'] := .of_depthAfter_zero (by decide)
  have harrow : Balanced arrow := by
    cases hkind : l.kind with
    | other label => simp [hkind, LinkKind.arrow] at harrow
    | _ =>
      rw [hkind] at harrow
      rw [← Except.ok.inj harrow]
      exact .of_depthAfter_zero (by decide +kernel)
  exact ((((hend _ hl.1).append (hblank.append (balanced_countMark _))).append harrow).append
    (hblank.append (hend _ hl.2))).append hfeed

theorem balanced_sectionText {lead heading : String} (hlead : Balanced lead.toList)
    (hheading : Balanced heading.toList) {texts : List Text} (h : ∀ t ∈ texts, Balanced t) :
    Balanced (sectionText lead heading texts) := by
  have hfeed : Balanced ['\n'] := .of_depthAfter_zero (by decide)
  have hopening : Balanced "/' ".toList := .of_depthAfter_zero (by decide +kernel)
  have hclosing : Balanced " '/\n".toList := .of_depthAfter_zero (by decide +kernel)
  have htitle : Balanced (Template.title heading.toList) := (hopening.append hheading).append hclosing
  have hspaced : Balanced (Template.spaced texts) :=
    .flatMap fun t ht => hfeed.append ((h t ht).append hfeed)
  exact ((hlead.append htitle).append hspaced).append hfeed

namespace Diagram

section
variable {d : Diagram} (hd : d.Grounded) (hobjects : ∀ c ∈ d.objects, c.IsBraceFree)
include hobjects

theorem balanced_of_mapM_render {links : List Link} (hlinks : ∀ l ∈ links, l.Joins d.objects)
    {lines : List Text} (h : links.mapM Link.render = .ok lines) : ∀ t ∈ lines, Balanced t := by
  intro t ht
  obtain ⟨l, hl, ht⟩ := exists_of_mem_mapM h ht
  exact Link.balanced_render hobjects (hlinks l hl) ht

include hd

/-- The drawing of a grounded diagram without braces in its texts is balanced. -/
theorem balanced_renderStandard {withDependencies : Bool} {text : Text}
    (h : d.renderStandard withDependencies = .ok text) : Balanced text := by
  obtain ⟨s, hshows, hdependency, rfl⟩ := renderStandard_eq_ok_iff.1 h
  have hobjectTexts : ∀ t ∈ s.objects, Balanced t := by
    intro t ht
    have hrender := hshows.objects
    rw [Tree.renderAll_eq_mapM] at hrender
    obtain ⟨tree, htree, ht⟩ := exists_of_mem_mapM hrender ht
    exact Tree.balanced_render (Forest.isBraceFree_ofObjects hobjects tree htree) ht
  have hinheritance := balanced_of_mapM_render hobjects hd.inheritance hshows.inheritance
  have haggregation := balanced_of_mapM_render hobjects hd.aggregation hshows.aggregation
  have hnesting := balanced_of_mapM_render hobjects hd.nesting hshows.nesting
  have hfeed : Balanced "\n".toList := .of_depthAfter_zero (by decide +kernel)
  have hfeeds : Balanced "\n\n".toList := .of_depthAfter_zero (by decide +kernel)
  have hsection : ∀ (heading : String) {texts : List Text}, depthAfter 0 heading.toList = some 0 →
      (∀ t ∈ texts, Balanced t) → Balanced (sectionText "\n" heading texts) := by
    intro heading texts hheading htexts
    exact balanced_sectionText hfeed (.of_depthAfter_zero hheading) htexts
  have hfront : Balanced s.front := by
    have hstart : Balanced "@startuml\n\n".toList := .of_depthAfter_zero (by decide +kernel)
    have hpreamble : Balanced ['\n'] := .of_depthAfter_zero (by decide)
    exact ((((((((hstart.append hpreamble).append hfeeds).append
      (hsection "Objects" (by decide +kernel) hobjectTexts)).append hfeeds).append
      (hsection "Inheritance relationships" (by decide +kernel) hinheritance)).append hfeeds).append
      (hsection "Aggregation relationships" (by decide +kernel) haggregation))).append hfeed
  have hmiddle : Balanced ((s.dependency.map Layout.dependencyText).getD []) := by
    cases hlines : s.dependency with
    | none => exact .nil
    | some lines =>
      have htexts : ∀ t ∈ lines, Balanced t := by
        rw [hlines, dependencyDrawings] at hdependency
        split at hdependency
        · cases hmap : d.dependency.mapM Link.render with
          | error f => simp [hmap, Except.map] at hdependency
          | ok lines' =>
            obtain rfl : lines' = lines := by simpa [hmap, Except.map] using hdependency
            exact balanced_of_mapM_render hobjects hd.dependency hmap
        · simp at hdependency
      have hheading : Balanced "Dependency relationships".toList :=
        .of_depthAfter_zero (by decide +kernel)
      exact (hfeed.append (balanced_sectionText hfeeds hheading htexts)).append hfeed
  have hback : Balanced s.back := by
    have hend : Balanced "\n\n@enduml\n".toList := .of_depthAfter_zero (by decide +kernel)
    exact (hfeeds.append (hsection "Nested objects" (by decide +kernel) hnesting)).append hend
  exact (hfront.append hmiddle).append hback

end

/-- A class two namespaces down, with a static attribute and an abstract query on an enumeration
that is nested in it; a second header cannot be read. -/
def markedMembers : List Command :=
  [.create [.ok
      { classes := [("A<T>".toList,
          { declarationMethod := some "struct".toList, abstract := some true
            template := some "typename T".toList, inherits := some []
            place := { written := "a::b".toList, enclosing := [] }
            properties := some
              { privatePart := some
                  [{ name := some "x".toList, static := some true, type := some "AT::E *".toList
                     array := true, deleted := false }]
                publicPart := some [], protectedPart := some [] }
            methods := some
              { privatePart := some [], protectedPart := some []
                publicPart := some
                  [{ name := some "run".toList, static := some false, returns := some "int".toList
                     returnsPointer := some false, returnsReference := some true
                     pureVirtual := some true, destructor := some false, const := some true
                     parameters := some
                      [{ type := some "AT::E".toList, name := some "e".toList }]
                     deleted := false }] }
            enums := some
              { privatePart := some []
                publicPart := some
                  [{ name := some "E".toList
                     place := { written := "a::b::A".toList, enclosing := [some "a::b".toList] }
                     values := [some "first".toList] }]
                protectedPart := some [] } })]
        enums := [] }],
    .add [.error .noObjects], .buildDependency]

/-- After every history that leaves no braces in the texts of the containers, the drawing of the
diagram opens as many braces as it closes, and none of its front parts closes more than it opens. -/
theorem renderStandard_braces (withDependencies : Bool) (commands : List Command) {text : Text}
    (hobjects : ∀ c ∈ (afterCommands withDependencies commands).objects, c.IsBraceFree)
    (htext : (afterCommands withDependencies commands).renderStandard withDependencies = .ok text) :
    (∀ front, front <+: text → front.count '\x7d' ≤ front.count '\x7b') ∧
      text.count '\x7b' = text.count '\x7d' := by
  have hgrounded := grounded_afterCommands withDependencies commands
  exact (balanced_renderStandard hgrounded hobjects htext).count

theorem renderStandard_braces_markedMembers :
    ∃ text, (afterCommands true markedMembers).renderStandard true = .ok text ∧
      text.count '\x7b' = 7 ∧ text.count '\x7d' = 7 ∧
      ∀ front, front <+: text → front.count '\x7d' ≤ front.count '\x7b' := by
  have hobjects : ∀ c ∈ (afterCommands true markedMembers).objects, c.IsBraceFree := by
    decide +kernel
  have hcount : ((afterCommands true markedMembers).renderStandard true).map (List.count '\x7b') =
      .ok 7 := by decide +kernel
  cases htext : (afterCommands true markedMembers).renderStandard true with
  | error f => simp [htext, Except.map] at hcount
  | ok text =>
    have hopened : text.count '\x7b' = 7 := by simpa [htext, Except.map] using hcount
    obtain ⟨hfronts, hwhole⟩ := renderStandard_braces true markedMembers hobjects htext
    exact ⟨text, rfl, hopened, by omega, hfronts⟩

end Diagram

end ClassDiagram
