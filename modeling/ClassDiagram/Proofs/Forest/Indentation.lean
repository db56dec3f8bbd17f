import ClassDiagram.Forest
import ClassDiagram.Proofs.Attempt
import ClassDiagram.Proofs.Namespace.Blocks
import ClassDiagram.Proofs.Text.Components
import Mathlib.Data.List.Infix

/-!
# Blocks are indented by their depth

A block is drawn by drawing its children, cutting the drawn text into lines and putting a tab in
front of each line that is not empty. The lines of a tree that is several blocks down are cut and
joined as many times. Nothing is lost or merged on the way: `Tree.linesAt` lists the lines of a tree
with all their tabs, without drawing any block, and a drawn tree is cut into these lines.

A block needs a child, since a block without children is drawn with an empty line in it, and a name
on one line.
-/
namespace ClassDiagram
open Text

theorem map_intercalate {α β : Type} (f : α → β) (sep : List α) (xs : List (List α)) :
    (sep.intercalate xs).map f = (sep.map f).intercalate (xs.map (List.map f)) := by
  induction xs with
  | nil => simp
  | cons x xs ih =>
    cases xs with
    | nil => simp
    | cons y xs =>
      rw [List.intercalate_cons_cons, List.map_append, List.map_append, ih]
      simp

theorem isInfix_intercalate {α : Type} {sep x : List α} {xs : List (List α)} (h : x ∈ xs) :
    x <:+: sep.intercalate xs := by
  induction xs with
  | nil => simp at h
  | cons y xs ih =>
    cases xs with
    | nil =>
      rw [List.intercalate_singleton, List.mem_singleton.1 h]
    | cons z xs =>
      rw [List.intercalate_cons_cons, List.append_assoc]
      rcases List.mem_cons.1 h with rfl | h
      · exact (List.prefix_append x _).isInfix
      · have hrest := ih h
        have hsuffix : sep.intercalate (z :: xs) <:+ y ++ (sep ++ sep.intercalate (z :: xs)) :=
          (List.suffix_append sep _).trans (List.suffix_append y _)
        exact hrest.trans hsuffix.isInfix

theorem joinWith_ne_nil {sep t : Text} {ts : List Text} (h : t ≠ []) :
    joinWith sep (t :: ts) ≠ [] := by
  cases ts <;> simp [joinWith, h]

namespace Tree

theorem isOneLine_opening {name : Option Text} (h : ∀ n, name = some n → IsOneLine n) :
    IsOneLine (Namespace.opening (shownName name)) := by
  have hheading : IsOneLine (Namespace.heading (shownName name)) := by
    cases name with
    | none => decide +kernel
    | some n =>
      intro c hc
      exact h n rfl c (mem_of_mem_components (getLastD_mem_components n) hc)
  have hlead : IsOneLine "namespace ".toList := by decide +kernel
  have hbrace : IsOneLine " \x7b".toList := by decide +kernel
  exact (hlead.append hheading).append hbrace

/-- Trees in which each block has children, and a name on one line. -/
inductive Printable : Tree → Prop
  | leaf (c : Container) : Printable (.leaf c)
  | block {name : Option Text} {children : List Tree} (hname : ∀ n, name = some n → IsOneLine n)
      (hne : children ≠ []) (hchildren : ∀ t ∈ children, Printable t) :
      Printable (.block name children)

mutual

/-- The lines of a tree that stands that many blocks down: those of a container as it is drawn, and
for a block its first line, the lines of its children with an empty line between any two of them,
and its last line. -/
def linesAt (depth : Nat) : Tree → Except Fault (List Text)
  | .leaf c => do return (← c.render).splitLines.map (indentBy depth)
  | .block name children => do
    let parts ← linesAtAll (depth + 1) children
    return indentBy depth (Namespace.opening (shownName name)) :: [[]].intercalate parts
      ++ [indentBy depth Namespace.closing]

/-- The lines of some trees that stand that many blocks down. -/
def linesAtAll (depth : Nat) : List Tree → Except Fault (List (List Text))
  | [] => .ok []
  | t :: ts => do
    let first ← linesAt depth t
    let rest ← linesAtAll depth ts
    return first :: rest

end

/-- A tree stands in another one, that many blocks down. -/
inductive Inside : Nat → Tree → Tree → Prop
  | self (t : Tree) : Inside 0 t t
  | block {depth : Nat} {s t : Tree} (name : Option Text) {children : List Tree}
      (ht : t ∈ children) (hs : Inside depth s t) : Inside (depth + 1) s (.block name children)

theorem renderAll_eq_mapM (ts : List Tree) : renderAll ts = ts.mapM render := by
  induction ts with
  | nil => simp [renderAll]
  | cons t ts ih => rw [renderAll, ih, List.mapM_cons]

/-- A drawn tree ends in a line feed. -/
theorem endsInFeed_of_render {t : Tree} {text : Text} (h : t.render = .ok text) :
    EndsInFeed text := by
  cases t with
  | leaf c =>
    rw [render, Container.render] at h
    obtain ⟨lines, -, h⟩ := bind_eq_ok_iff.1 h
    have hclose : "\x7d\n".toList = Namespace.closing ++ ['\n'] := by decide +kernel
    refine ⟨c.heading ++ " \x7b\n".toList ++ lines.flatten ++ Namespace.closing, ?_⟩
    rw [← Except.ok.inj h, hclose, List.append_assoc _ Namespace.closing]
  | block name children =>
    rw [render] at h
    obtain ⟨parts, -, h⟩ := bind_eq_ok_iff.1 h
    rw [← Except.ok.inj h]
    exact Namespace.endsInFeed_wrap _ _

theorem body_ne_nil {children : List Tree} (hne : children ≠ []) {parts : List Text}
    (h : renderAll children = .ok parts) : joinWith ['\n'] parts ≠ [] := by
  cases children with
  | nil => exact absurd rfl hne
  | cons t ts =>
    rw [renderAll] at h
    obtain ⟨first, hfirst, h⟩ := bind_eq_ok_iff.1 h
    obtain ⟨rest, -, h⟩ := bind_eq_ok_iff.1 h
    obtain ⟨s, rfl⟩ := endsInFeed_of_render hfirst
    rw [← Except.ok.inj h]
    exact joinWith_ne_nil (by simp)

/-- The lines of a drawn block. -/
theorem splitLines_block {name : Option Text} {children : List Tree}
    (hname : ∀ n, name = some n → IsOneLine n) (hne : children ≠ []) {parts : List Text}
    (h : renderAll children = .ok parts) :
    splitLines (Namespace.wrap (shownName name) (joinWith ['\n'] parts)) =
      Namespace.opening (shownName name) :: [[]].intercalate
        (parts.map fun u => u.splitLines.map Namespace.indentLine) ++ [Namespace.closing] := by
  have hends : ∀ u ∈ parts, EndsInFeed u := by
    intro u hu
    rw [renderAll_eq_mapM] at h
    obtain ⟨t, -, ht⟩ := exists_of_mem_mapM h hu
    exact endsInFeed_of_render ht
  have hfirst : splitLines (Namespace.opening (shownName name) ++ ['\n']) =
      [Namespace.opening (shownName name)] :=
    splitLines_append_of_isOneLine (isOneLine_opening hname) []
  rw [Namespace.splitLines_wrap _ (body_ne_nil hne h), hfirst,
    splitLines_joinWith_of_endsInFeed hends, map_intercalate, List.map_map]
  rfl

theorem linesAtAll_eq {depth : Nat} {ts : List Tree}
    (h : ∀ t ∈ ts, t.linesAt depth = t.render.map fun u => u.splitLines.map (indentBy depth)) :
    linesAtAll depth ts =
      (renderAll ts).map (List.map fun u => u.splitLines.map (indentBy depth)) := by
  induction ts with
  | nil => simp [linesAtAll, renderAll, Except.map]
  | cons t ts ih =>
    have ht := h t (by simp)
    have hts := ih fun s hs => h s (by simp [hs])
    rw [linesAtAll, renderAll, ht, hts]
    cases t.render with
    | error f => rfl
    | ok u => cases renderAll ts <;> rfl

/-- The lines of a tree some blocks down are those of the tree drawn alone, with a tab for each block
in front of those that are not empty. -/
theorem Printable.linesAt_eq {t : Tree} (h : t.Printable) (depth : Nat) :
    t.linesAt depth = t.render.map fun u => u.splitLines.map (indentBy depth) := by
  induction h generalizing depth with
  | leaf c =>
    rw [linesAt, render]
    cases c.render <;> rfl
  | @block name children hname hne _ ih =>
    rw [linesAt, render, linesAtAll_eq fun t ht => ih t ht (depth + 1)]
    cases hparts : renderAll children with
    | error f => rfl
    | ok parts =>
      simp only [Except.map, ok_bind, pure_eq_ok, splitLines_block hname hne hparts]
      rw [List.map_append, List.map_cons, map_intercalate, List.map_map]
      simp only [Function.comp_def, map_indentBy_map_indentLine, List.map_cons, List.map_nil,
        indentBy_nil]

/-- The lines of a tree drawn alone stand among the lines of each tree around it, one tab further in
for each block between them. -/
theorem Printable.isInfix_splitLines {t s : Tree} (h : t.Printable) {depth : Nat}
    (hs : Inside depth s t) {text : Text} (htext : t.render = .ok text) :
    ∃ own, s.render = .ok own ∧ own.splitLines.map (indentBy depth) <:+: text.splitLines := by
  induction hs generalizing text with
  | self t =>
    refine ⟨text, htext, ?_⟩
    rw [map_indentBy_zero]
  | @block depth s t name children ht _ ih =>
    cases h with
    | block hname hne hchildren =>
      rw [render] at htext
      obtain ⟨parts, hparts, htext⟩ := bind_eq_ok_iff.1 htext
      obtain ⟨u, hu, htu⟩ := exists_mem_of_mapM (renderAll_eq_mapM children ▸ hparts) ht
      obtain ⟨own, hown, hrun⟩ := ih (hchildren t ht) htu
      refine ⟨own, hown, ?_⟩
      rw [← Except.ok.inj htext, splitLines_block hname hne hparts]
      have hpart : u.splitLines.map Namespace.indentLine ∈
          parts.map fun u => u.splitLines.map Namespace.indentLine := List.mem_map_of_mem hu
      rw [← map_indentLine_map_indentBy]
      exact (hrun.map Namespace.indentLine).trans
        ((isInfix_intercalate hpart).trans
          (List.infix_append [Namespace.opening (shownName name)] _ [Namespace.closing]))

theorem Inside.printable {t s : Tree} {depth : Nat} (hs : Inside depth s t) (h : t.Printable) :
    s.Printable := by
  induction hs with
  | self t => exact h
  | block name ht _ ih =>
    cases h with
    | block _ _ hchildren => exact ih (hchildren _ ht)

/-- A drawn tree is cut into its lines as `linesAt` lists them, or fails as they do. A tree inside
it, some blocks down, has there the lines of its own drawing, with a tab for each of these blocks in
front of every line that is not empty. -/
theorem splitLines_render {t : Tree} (h : t.Printable) :
    t.render.map splitLines = t.linesAt 0 ∧
      ∀ depth s, Inside depth s t →
        s.linesAt depth = s.render.map (fun own => own.splitLines.map (indentBy depth)) ∧
        ∀ text, t.render = .ok text → ∃ own, s.render = .ok own ∧
          own.splitLines.map (indentBy depth) <:+: text.splitLines := by
  constructor
  · rw [h.linesAt_eq 0]
    simp only [map_indentBy_zero]
  · intro depth s hs
    exact ⟨(hs.printable h).linesAt_eq depth, fun text htext => h.isInfix_splitLines hs htext⟩

/-- A class in a block inside a block, next to an enumeration with a value of three lines. -/
def nestedBlocks : Tree :=
  .block (some "a".toList)
    [.leaf { Container.outline "enum".toList "E".toList with
        members := [.literal "x\r\n\ny".toList] },
      .block (some "a::b".toList) [.leaf (Container.outline "class".toList "C".toList)]]

theorem splitLines_render_nestedBlocks :
    nestedBlocks.render.map splitLines =
      .ok (["namespace a \x7b", "\tenum E \x7b", "\t\tx", "", "\ty", "\t\x7d", "",
        "\tnamespace b \x7b", "\t\tclass C \x7b", "\t\t\x7d", "\t\x7d", "\x7d"].map
          String.toList) := by
  have hinner : Printable
      (.block (some "a::b".toList) [.leaf (Container.outline "class".toList "C".toList)]) := by
    refine .block (fun n hn => ?_) (by simp) fun t ht => ?_
    · obtain rfl := Option.some.inj hn
      decide +kernel
    · rw [List.mem_singleton.1 ht]
      exact .leaf _
  have houter : nestedBlocks.Printable := by
    refine .block (fun n hn => ?_) (by simp) fun t ht => ?_
    · obtain rfl := Option.some.inj hn
      decide +kernel
    · rcases List.mem_cons.1 ht with rfl | ht
      · exact .leaf _
      · rw [List.mem_singleton.1 ht]
        exact hinner
  exact (splitLines_render houter).1.trans (by decide +kernel)

end Tree

end ClassDiagram
