import ClassDiagram.Proofs.Diagram.Lookup

/-!
# Qualified names inside types

A type may hold the qualified name of a class between other texts, as `const n::C&` or
`std::vector<n::C>` do. It is cut at every `::` all the same, so what stands in front of the
qualified name becomes part of the scopes in which the class is looked for. What stands behind it
does no harm, since the name of the class is looked up as a whole word.

A class in a namespace is therefore found if nothing stands in front of its qualified name, or if
what stands there begins with the namespace itself; in all other types it is missed. A class outside
of namespaces is always found.
-/
namespace ClassDiagram
open Text

theorem isPrefix_append_cons_iff {α : Type} {xs ys zs : List α} {x : α} (hx : x ∉ xs) :
    xs <+: ys ++ x :: zs ↔ xs <+: ys := by
  constructor
  · intro h
    rcases List.prefix_or_prefix_of_prefix h (List.prefix_append ys (x :: zs)) with h' | ⟨us, rfl⟩
    · exact h'
    · rw [List.prefix_append_right_inj] at h
      cases us with
      | nil => simp
      | cons u us =>
        obtain ⟨rfl, -⟩ := List.cons_prefix_cons.1 h
        exact absurd (by simp) hx
  · intro h
    exact h.trans (List.prefix_append _ _)

/-- An identifier stands as a whole word between texts that do not go on with word characters. -/
theorem Pattern.wordAt_between {name : Text} (hname : IsIdentifier name) (front back : Text)
    (hfront : front.getLast?.any isWord = false) (hback : back.head?.any isWord = false) :
    wordAt name (front ++ (name ++ back)) front.length = true := by
  obtain ⟨hhead, hlast⟩ := hname.hasWordEnds
  obtain ⟨x, hx, hxword⟩ := (Option.any_eq_true _ _).1 hhead
  obtain ⟨y, hy, hyword⟩ := (Option.any_eq_true _ _).1 hlast
  have hbefore : isEdge isWord front.reverse (name ++ back) = true := by
    simp [isEdge, List.head?_append, hx, hxword, hfront]
  have hbehind : isEdge isWord (name.reverse ++ front.reverse) back = true := by
    simp [isEdge, List.head?_append, hy, hyword, hback]
  simp [wordAt, wordHere, hbefore, hbehind]

namespace Container
variable {c : Container} {front back : Text}

/-- What stands behind a qualified name goes to its last component. -/
theorem components_qualifiedName_append (hc : c.IsNamed) (hname : IsIdentifier c.name)
    (hback : ¬ colons <:+: back) :
    components (c.qualifiedName ++ back) = Namespace.parts c.ns ++ [c.name ++ back] := by
  have hcomponents := components_of_isIdentifier hc hname
  rw [scope_of_isIdentifier hc hname] at hcomponents
  refine components_append hcomponents (components_of_not_colons hback) fun hlast => ?_
  have hword := (isQualified_qualifiedName hc).hasWordEnds.2
  rw [hlast] at hword
  exact absurd hword (by decide)

/-- What stands in front of a qualified name goes to its first component. -/
theorem lookup_decorated (hc : c.IsNamed) (hname : IsIdentifier c.name)
    (hback : ¬ colons <:+: back) {us : List Text} {w : Text}
    (hfront : components front = us ++ [w]) :
    (Namespace.parts c.ns = [] ∧ lookupPath (front ++ c.qualifiedName ++ back) [] = us ∧
      lookedUp (front ++ c.qualifiedName ++ back) = w ++ (c.name ++ back)) ∨
    ∃ p ps, Namespace.parts c.ns = p :: ps ∧
      lookupPath (front ++ c.qualifiedName ++ back) [] = us ++ (w ++ p) :: ps ∧
      lookedUp (front ++ c.qualifiedName ++ back) = c.name ++ back := by
  have hseam : (c.qualifiedName ++ back).head? ≠ some ':' := by
    obtain ⟨x, hx, hxword⟩ :=
      (Option.any_eq_true _ _).1 (isQualified_qualifiedName hc).hasWordEnds.1
    rw [List.head?_append, hx, Option.some_or]
    rintro ⟨⟩
    exact absurd hxword (by decide)
  have hrest := components_qualifiedName_append hc hname hback
  rw [List.append_assoc]
  cases hparts : Namespace.parts c.ns with
  | nil =>
    rw [hparts] at hrest
    have hall := components_append hfront hrest fun _ => hseam
    refine .inl ⟨rfl, ?_, ?_⟩
    · rw [lookupPath, hall, List.nil_append, List.dropLast_concat]
    · rw [lookedUp, hall, List.getLast?_concat, Option.getD_some]
  | cons p ps =>
    rw [hparts, List.cons_append] at hrest
    have hall : components (front ++ (c.qualifiedName ++ back)) =
        us ++ (w ++ p) :: ps ++ [c.name ++ back] := by
      rw [components_append hfront hrest fun _ => hseam, List.append_assoc, List.cons_append]
    refine .inr ⟨p, ps, rfl, ?_, ?_⟩
    · rw [lookupPath, hall, List.nil_append, List.dropLast_concat]
    · rw [lookedUp, hall, List.getLast?_concat, Option.getD_some]

section
variable (hc : c.IsNamed) (hname : IsIdentifier c.name)
  (hfront : ∀ x, front.getLast? = some x → isWord x = false ∧ x ≠ ':')
  (hback : ¬ colons <:+: back)
include hc hname hfront hback

/-- The name of the container is a whole word of what is looked up. -/
theorem exists_wordAt_decorated (hback' : ∀ x, back.head? = some x → isWord x = false) :
    ∃ i, Pattern.wordAt c.name (lookedUp (front ++ c.qualifiedName ++ back)) i = true := by
  have hbehind : back.head?.any isWord = false := by
    cases hhead : back.head? with
    | none => rfl
    | some x => simpa using hback' x hhead
  have hlast := List.dropLast_append_getLast (components_ne_nil front)
  rcases lookup_decorated hc hname hback hlast.symm with ⟨-, -, hword⟩ | ⟨p, ps, -, -, hword⟩
  · have hends := getLast?_of_components hlast.symm fun hcolon => (hfront _ hcolon).2 rfl
    have hbefore : ((components front).getLast (components_ne_nil front)).getLast?.any isWord =
        false := by
      rw [hends]
      cases hlast : front.getLast? with
      | none => rfl
      | some x => simpa using (hfront x hlast).1
    exact ⟨_, hword ▸ Pattern.wordAt_between hname _ _ hbefore hbehind⟩
  · exact ⟨0, hword ▸ Pattern.wordAt_between hname [] back rfl hbehind⟩

/-- The namespace of the container begins the path only if nothing stands in front of the qualified
name, or if it begins what stands there. -/
theorem parts_isPrefix_lookupPath_iff :
    Namespace.parts c.ns <+: lookupPath (front ++ c.qualifiedName ++ back) [] ↔
      front = [] ∨ Namespace.parts c.ns <+: front.components.dropLast := by
  have hlast := List.dropLast_append_getLast (components_ne_nil front)
  rcases lookup_decorated hc hname hback hlast.symm with ⟨hparts, -, -⟩ | ⟨p, ps, hparts, hpath, -⟩
  · simp [hparts]
  · rw [hpath, hparts]
    by_cases hnil : front = []
    · subst hnil
      simp
    · have hends := getLast?_of_components hlast.symm fun hcolon => (hfront _ hcolon).2 rfl
      obtain ⟨x, hx⟩ : ∃ x, front.getLast? = some x := by
        rw [List.getLast?_eq_some_getLast hnil]
        exact ⟨_, rfl⟩
      rw [hx] at hends
      have hnot : (components front).getLast (components_ne_nil front) ++ p ∉ p :: ps := by
        intro hmem
        have hid := hc.isIdentifier_of_mem_parts (hparts ▸ hmem)
        have hword := hid.2 x (List.mem_append_left p (List.mem_of_getLast? hends))
        rw [(hfront x hx).1] at hword
        exact Bool.noConfusion hword
      rw [isPrefix_append_cons_iff hnot]
      simp [hnil]

end

end Container

namespace Diagram

/-- A class is found by its qualified name between two texts, if no word and no `::` goes over its
ends, exactly if nothing stands in front of it or what stands there begins with its namespace. -/
theorem find_decorated (d : Diagram) {c : Container} (hd : d.objects = [c])
    (hname : IsIdentifier c.name) (hns : c.ns ≠ [] → IsQualified c.ns) (front back : Text)
    (hfront : ∀ x, front.getLast? = some x → isWord x = false ∧ x ≠ ':')
    (hback : ¬ colons <:+: back) (hback' : ∀ x, back.head? = some x → isWord x = false) :
    d.find .word (front ++ c.qualifiedName ++ back) [] =
      .ok (if front = [] ∨ Namespace.parts c.ns <+: front.components.dropLast then some (0, c)
        else none) := by
  have hc : c.IsNamed := ⟨⟨[c.name], by simp, by simpa using hname, rfl⟩, hns⟩
  have hpath := Container.parts_isPrefix_lookupPath_iff hc hname hfront hback
  have hword := Container.exists_wordAt_decorated hc hname hfront hback hback'
  have hscope := Container.scope_of_isIdentifier hc hname
  rcases find_cases (d := d) (by simpa [hd] using hc.isSearchable) .word
    (front ++ c.qualifiedName ++ back) [] with ⟨hfind, hnone⟩ | ⟨i, o, hfind, hdenotes⟩
  · have hnot : ¬ Namespace.parts c.ns <+: lookupPath (front ++ c.qualifiedName ++ back) [] :=
      fun h => hnone _ h c (by simp [hd]) ⟨hscope, hword⟩
    rw [hfind, if_neg fun h => hnot (hpath.2 h)]
  · obtain ⟨hi, scope, -, hprefix, ⟨rfl, -⟩, -, -, -⟩ := hdenotes
    obtain ⟨rfl, rfl⟩ : i = 0 ∧ c = o := by
      rw [hd, List.getElem?_singleton] at hi
      split at hi
      · exact ⟨‹_›, Option.some.inj hi⟩
      · simp at hi
    have hscope' : c.qualifiedName.components.dropLast = Namespace.parts c.ns := hscope
    rw [hscope'] at hprefix
    rw [hfind, if_pos (hpath.1 hprefix)]

/-- A class `n::N` alone. -/
def lone : Diagram := { objects := [classNamed "N".toList "n".toList] }

/-- The class `n::N` is found in the types `n::N*` and `n::list<n::N>`. -/
theorem find_decorated_found :
    lone.find .word ([] ++ "n::N".toList ++ "*".toList) [] =
      .ok (some (0, classNamed "N".toList "n".toList)) ∧
    lone.find .word ("n::list<".toList ++ "n::N".toList ++ ">".toList) [] =
      .ok (some (0, classNamed "N".toList "n".toList)) := by
  have hstar : ∀ x, "*".toList.head? = some x → isWord x = false := by
    rintro x ⟨⟩
    decide
  have hopen : ∀ x, "n::list<".toList.getLast? = some x → isWord x = false ∧ x ≠ ':' := by
    rintro x ⟨⟩
    decide
  have hclose : ∀ x, ">".toList.head? = some x → isWord x = false := by
    rintro x ⟨⟩
    decide
  have hbegins : Namespace.parts "n".toList <+: (components "n::list<".toList).dropLast := by
    decide +kernel
  constructor
  · have hfind := find_decorated lone rfl (by decide) (by decide) [] _ (by simp) (by decide) hstar
    exact hfind.trans (by rw [if_pos (.inl rfl)])
  · have hfind := find_decorated lone rfl (by decide) (by decide) _ _ hopen (by decide) hclose
    exact hfind.trans (by rw [if_pos (.inr hbegins)])

/-- The class `n::N` is missed in the types `const n::N&` and `std::vector<n::N>`. -/
theorem find_decorated_missed :
    lone.find .word ("const ".toList ++ "n::N".toList ++ "&".toList) [] = .ok none ∧
    lone.find .word ("std::vector<".toList ++ "n::N".toList ++ ">".toList) [] = .ok none := by
  decide +kernel

end Diagram

end ClassDiagram
