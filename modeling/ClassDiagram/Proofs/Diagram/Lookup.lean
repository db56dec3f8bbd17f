import ClassDiagram.Diagram.Basic
import ClassDiagram.Proofs.Diagram.Resolution
import Mathlib.Data.List.Basic

/-!
# The rule by which names are looked up

A name is written in a scope. Its last component is the word that is looked up, and the scope
followed by its other components is where the look-up begins. A container answers to the word in a
scope if it stands directly in that scope and its name is the word, or a whole word of it. The
look-up gives an answer from the longest prefix in which there is one; among its answers it prefers
the one whose name stands leftmost in the word, and of those the one that is listed first.

`Diagram.Denotes` states this rule without the search, and `Diagram.find_cases` says that the search
follows it.
-/
namespace ClassDiagram
open Text

/-- The word that is looked up for a written name. -/
def lookedUp (name : Text) : Text := name.components.getLast?.getD []

/-- Where the look-up of a name in a scope begins. -/
def lookupPath (name : Text) (scope : List Text) : List Text := scope ++ name.components.dropLast

theorem lookedUp_of_not_colons {name : Text} (h : ¬ colons <:+: name) : lookedUp name = name := by
  rw [lookedUp, components_of_not_colons h]
  rfl

theorem lookupPath_of_not_colons {name : Text} (h : ¬ colons <:+: name) (scope : List Text) :
    lookupPath name scope = scope := by
  rw [lookupPath, components_of_not_colons h]
  exact List.append_nil scope

/-- Whether a container answers to a word in a scope. -/
def Container.Answers (cmp : Comparison) (word : Text) (scope : List Text) (c : Container) : Prop :=
  c.qualifiedName.components.dropLast = scope ∧
    match cmp with
    | .equal => c.name = word
    | .word => ∃ i, Pattern.wordAt c.name word i = true

/-- The first place at which a name stands in a text as a whole word. -/
def FirstAt (name t : Text) (i : Nat) : Prop :=
  Pattern.wordAt name t i = true ∧ ∀ j < i, Pattern.wordAt name t j = false

namespace Diagram

/-- The container at an index is what a word stands for when the look-up begins at a path: it
answers in the longest possible prefix of the path, and no other answer there stands further to the
left in the word, or at the same place and earlier in the list. -/
def Denotes (d : Diagram) (cmp : Comparison) (word : Text) (path : List Text) (i : Nat)
    (c : Container) : Prop :=
  d.objects[i]? = some c ∧
  ∃ scope k, scope <+: path ∧ c.Answers cmp word scope ∧ FirstAt c.name word k ∧
    (∀ longer, longer <+: path → scope.length < longer.length →
      ∀ o ∈ d.objects, ¬ o.Answers cmp word longer) ∧
    ∀ j o, d.objects[j]? = some o → o.Answers cmp word scope →
      ∃ m, FirstAt o.name word m ∧ (k < m ∨ k = m ∧ i ≤ j)

end Diagram

namespace Resolve

section
variable {cmp : Comparison} {written name : Text}

theorem wordAt_of_length_le {i : Nat} (h : written.length ≤ i) :
    Pattern.wordAt name written i = Pattern.wordAt name written written.length := by
  simp [Pattern.wordAt, List.take_of_length_le h, List.drop_of_length_le h]

theorem place_eq_some_iff {i : Nat} : place written name = some i ↔ FirstAt name written i := by
  rw [place, List.find?_range_eq_some]
  simp only [Bool.not_eq_true', List.mem_range]
  constructor
  · rintro ⟨hword, -, hfirst⟩
    exact ⟨hword, hfirst⟩
  · rintro ⟨hword, hfirst⟩
    refine ⟨hword, Nat.lt_succ_of_le (Nat.le_of_not_lt fun hlt => ?_), hfirst⟩
    have hend := hfirst written.length hlt
    rw [← wordAt_of_length_le (Nat.le_of_lt hlt), hword] at hend
    exact Bool.noConfusion hend

theorem place_isSome_iff :
    (place written name).isSome = true ↔ ∃ i, Pattern.wordAt name written i = true := by
  rw [place, List.find?_isSome]
  simp only [List.mem_range]
  constructor
  · rintro ⟨i, -, hword⟩
    exact ⟨i, hword⟩
  · rintro ⟨i, hword⟩
    by_cases hi : i ≤ written.length
    · exact ⟨i, by omega, hword⟩
    · rw [wordAt_of_length_le (by omega)] at hword
      exact ⟨written.length, by omega, hword⟩

theorem mem_matching_iff {scope : List Text} {objects : List Container} {c : Container} :
    c ∈ matching cmp written scope objects ↔ c ∈ objects ∧ c.Answers cmp written scope := by
  rw [matching, List.mem_filter, Bool.and_eq_true, decide_eq_true_eq, Container.scope, eq_comm]
  cases cmp with
  | equal => simp [Container.Answers, fits, eq_comm]
  | word => simp only [Container.Answers, fits, place_isSome_iff]

/-- What answers to a word has a first place in it. -/
theorem exists_firstAt {scope : List Text} {c : Container} (hc : c.IsSearchable)
    (h : c.Answers cmp written scope) : ∃ i, FirstAt c.name written i := by
  have hmem : c ∈ matching cmp written scope [c] := mem_matching_iff.2 ⟨by simp, h⟩
  obtain ⟨-, hfits⟩ := List.mem_filter.1 hmem
  obtain ⟨i, hi⟩ := place_isSome_of_fits hc.ends (Bool.and_eq_true _ _ ▸ hfits).2
  exact ⟨i, place_eq_some_iff.1 hi⟩

/-- A container with the name and namespace of an answer is an answer too. -/
theorem answers_congr {scope : List Text} {c o : Container} (h : o.endpoint = c.endpoint)
    (hc : c.Answers cmp written scope) : o.Answers cmp written scope := by
  have hname : o.name = c.name := congrArg Endpoint.name h
  cases cmp <;> simpa only [Container.Answers, Container.qualifiedName_congr h, hname] using hc

/-- The choice among the answers of a list splits the list: answers in front of it stand further to
the right in the word, and those behind it stand no further to the left. -/
theorem IsChoice.split {scope : List Text} {objects : List Container} {c : Container}
    (h : IsChoice written (matching cmp written scope objects) c) :
    ∃ front back, objects = front ++ c :: back ∧
      (∀ o ∈ front, o.Answers cmp written scope →
        (place written c.name).getD 0 < (place written o.name).getD 0) ∧
      ∀ o ∈ back, o.Answers cmp written scope →
        (place written c.name).getD 0 ≤ (place written o.name).getD 0 := by
  obtain ⟨cs, ds, hsplit, hfront, hback⟩ := h
  obtain ⟨xs, ys, rfl, rfl, hys⟩ := List.filter_eq_append_iff.1 hsplit
  obtain ⟨us, vs, rfl, hus, -, rfl⟩ := List.filter_eq_cons_iff.1 hys
  have hmem : ∀ {os : List Container} {o : Container}, o ∈ os → o.Answers cmp written scope →
      o ∈ matching cmp written scope os := fun ho h => mem_matching_iff.2 ⟨ho, h⟩
  refine ⟨xs ++ us, vs, by simp, ?_, fun o ho h => hback o (hmem ho h)⟩
  intro o ho h
  rcases List.mem_append.1 ho with ho | ho
  · exact hfront o (hmem ho h)
  · exact absurd (List.mem_filter.1 (hmem ho h)).2 (hus o ho)

end

end Resolve

theorem FirstAt.unique {name t : Text} {i j : Nat} (h : FirstAt name t i) (h' : FirstAt name t j) :
    i = j := by
  have hi := Resolve.place_eq_some_iff.2 h
  have hj := Resolve.place_eq_some_iff.2 h'
  exact Option.some.inj (hi.symm.trans hj)

namespace Diagram
variable {d : Diagram} {cmp : Comparison} {word : Text} {path : List Text}

/-- A word stands for one container at most. -/
theorem Denotes.unique {i j : Nat} {c o : Container} (h : d.Denotes cmp word path i c)
    (h' : d.Denotes cmp word path j o) : i = j ∧ c = o := by
  obtain ⟨hi, scope, k, hscope, hc, hk, hlongest, hleast⟩ := h
  obtain ⟨hj, scope', k', hscope', ho, hk', hlongest', hleast'⟩ := h'
  obtain rfl : scope = scope' := by
    have hle : ¬ scope.length < scope'.length := fun hlt =>
      hlongest scope' hscope' hlt o (List.mem_of_getElem? hj) ho
    have hle' : ¬ scope'.length < scope.length := fun hlt =>
      hlongest' scope hscope hlt c (List.mem_of_getElem? hi) hc
    exact List.prefix_of_prefix_length_le hscope hscope' (by omega) |>.eq_of_length (by omega)
  obtain ⟨m, hm, hle⟩ := hleast j o hj ho
  obtain ⟨m', hm', hle'⟩ := hleast' i c hi hc
  obtain rfl := hm.unique hk'
  obtain rfl := hm'.unique hk
  obtain rfl : i = j := by omega
  exact ⟨rfl, Option.some.inj (hi.symm.trans hj)⟩

/-- The choice among the answers of the longest scope is what the word stands for. It is the first
container of its name and namespace, so the place of these is its own place. -/
theorem denotes_of_isChoice (hobjects : ∀ c ∈ d.objects, c.IsSearchable) {scope : List Text}
    (hscope : scope <+: path)
    (hlongest : ∀ longer, longer <+: path → scope.length < longer.length →
      ∀ o ∈ d.objects, ¬ o.Answers cmp word longer)
    {c : Container}
    (hchoice : Resolve.IsChoice word (Resolve.matching cmp word scope d.objects) c) :
    d.Denotes cmp word path (d.objects.findIdx fun o => o.endpoint = c.endpoint) c := by
  obtain ⟨hc, hanswers⟩ := Resolve.mem_matching_iff.1 hchoice.mem
  obtain ⟨k, hk⟩ := Resolve.exists_firstAt (hobjects c hc) hanswers
  obtain ⟨front, back, hsplit, hfront, hback⟩ := hchoice.split
  have hindex : d.objects.findIdx (fun o => o.endpoint = c.endpoint) = front.length := by
    have hnone : front.findIdx (fun o => decide (o.endpoint = c.endpoint)) = front.length := by
      rw [List.findIdx_eq_length]
      intro o ho
      refine decide_eq_false fun hend => ?_
      have hlt := hfront o ho (Resolve.answers_congr hend hanswers)
      rw [show o.name = c.name from congrArg Endpoint.name hend] at hlt
      exact Nat.lt_irrefl _ hlt
    rw [hsplit, List.findIdx_append, hnone, if_neg (Nat.lt_irrefl _)]
    simp [List.findIdx_cons]
  rw [hindex]
  refine ⟨by simp [hsplit], scope, k, hscope, hanswers, hk, hlongest, ?_⟩
  intro j o hj ho
  obtain ⟨m, hm⟩ := Resolve.exists_firstAt (hobjects o (List.mem_of_getElem? hj)) ho
  refine ⟨m, hm, ?_⟩
  have hk' := Resolve.place_eq_some_iff.2 hk
  have hm' := Resolve.place_eq_some_iff.2 hm
  rw [hsplit, List.getElem?_append] at hj
  split at hj
  · have hlt := hfront o (List.mem_of_getElem? hj) ho
    rw [hk', hm'] at hlt
    exact .inl hlt
  · rename_i hle
    rcases List.mem_cons.1 (List.mem_of_getElem? hj) with rfl | hmem
    · obtain rfl := hm.unique hk
      exact .inr ⟨rfl, by omega⟩
    · have hle' := hback o hmem ho
      rw [hk', hm', Option.getD_some, Option.getD_some] at hle'
      omega

/-- A look-up among names that can be searched for follows the rule. -/
theorem find_cases (hobjects : ∀ c ∈ d.objects, c.IsSearchable) (cmp : Comparison) (name : Text)
    (scope : List Text) :
    (d.find cmp name scope = .ok none ∧
      ∀ p, p <+: lookupPath name scope → ∀ c ∈ d.objects, ¬ c.Answers cmp (lookedUp name) p) ∨
    ∃ i c, d.find cmp name scope = .ok (some (i, c)) ∧
      d.Denotes cmp (lookedUp name) (lookupPath name scope) i c := by
  have hnone : ∀ {p : List Text}, p <+: lookupPath name scope →
      Resolve.matching cmp (lookedUp name) ((lookupPath name scope).take p.length) d.objects = [] →
      ∀ c ∈ d.objects, ¬ c.Answers cmp (lookedUp name) p := by
    intro p hp hnil c hc hanswers
    rw [← List.prefix_iff_eq_take.1 hp] at hnil
    have hmem := Resolve.mem_matching_iff.2 ⟨hc, hanswers⟩
    simp [hnil] at hmem
  have hfind : d.find cmp name scope = (do
      let found ← Resolve.outward cmp (lookedUp name) (lookupPath name scope) d.objects
        (lookupPath name scope).length
      return found.map fun c => (d.objects.findIdx fun o => o.endpoint = c.endpoint, c)) := rfl
  rw [hfind]
  rcases Resolve.outward_eq cmp hobjects (not_colons_isInfix_getLast name) (lookupPath name scope)
    (lookupPath name scope).length with ⟨hfound, hempty⟩ | ⟨m, hm, c, hfound, hchoice, hempty⟩
  · refine .inl ⟨by rw [lookedUp, hfound]; rfl, fun p hp => hnone hp ?_⟩
    exact hempty p.length hp.length_le
  · refine .inr ⟨_, c, by rw [lookedUp, hfound]; rfl, ?_⟩
    refine denotes_of_isChoice hobjects (List.take_prefix m _) (fun p hp hlt => hnone hp ?_) hchoice
    rw [List.length_take, Nat.min_eq_left hm] at hlt
    exact hempty p.length hlt hp.length_le

def classNamed (name ns : Text) : Container :=
  { kind := "class".toList, name, ns, parent := none
    trait := .classifier false none [], members := [] }

/-- Among containers named by identifiers a look-up never fails. It finds nothing exactly if no
container answers in any prefix of the path, and otherwise what the word stands for. -/
theorem find_eq_iff_denotes (d : Diagram) (hnamed : ∀ c ∈ d.objects, c.IsNamed) (cmp : Comparison)
    (name : Text) (scope : List Text) :
    (∃ found, d.find cmp name scope = .ok found) ∧
    (d.find cmp name scope = .ok none ↔
      ∀ p, p <+: lookupPath name scope → ∀ c ∈ d.objects, ¬ c.Answers cmp (lookedUp name) p) ∧
    ∀ i c, d.find cmp name scope = .ok (some (i, c)) ↔
      d.Denotes cmp (lookedUp name) (lookupPath name scope) i c := by
  rcases find_cases (fun c hc => (hnamed c hc).isSearchable) cmp name scope with
    ⟨hfind, hnone⟩ | ⟨i, c, hfind, hdenotes⟩
  · refine ⟨⟨none, hfind⟩, ⟨fun _ => hnone, fun _ => hfind⟩, fun i c => ?_⟩
    rw [hfind]
    refine ⟨fun h => by simp at h, ?_⟩
    rintro ⟨hi, p, -, hp, hanswers, -, -, -⟩
    exact absurd hanswers (hnone p hp c (List.mem_of_getElem? hi))
  · refine ⟨⟨some (i, c), hfind⟩, ?_, fun j o => ?_⟩
    · rw [hfind]
      refine ⟨fun h => by simp at h, fun hnone => ?_⟩
      obtain ⟨hi, p, -, hp, hanswers, -, -, -⟩ := hdenotes
      exact absurd hanswers (hnone p hp c (List.mem_of_getElem? hi))
    · rw [hfind]
      constructor
      · intro h
        obtain ⟨rfl, rfl⟩ : i = j ∧ c = o := by simpa using h
        exact hdenotes
      · intro h
        obtain ⟨rfl, rfl⟩ := hdenotes.unique h
        rfl

/-- Two classes of one name, and two more in the namespace of one of them. -/
def maps : Diagram :=
  { objects := [classNamed "Map".toList [], classNamed "Key".toList "n".toList,
      classNamed "Map".toList "n".toList, classNamed "Value".toList "n".toList] }

/-- The type `Map<Key, Value>` in the scope `n::m` means the class `n::Map`: nothing answers in
`n::m`, and of the three classes in `n` it stands leftmost. -/
theorem find_eq_iff_denotes_leftmost :
    maps.find .word "Map<Key, Value>".toList ["n".toList, "m".toList] =
      .ok (some (2, classNamed "Map".toList "n".toList)) ∧
    maps.Denotes .word "Map<Key, Value>".toList ["n".toList, "m".toList] 2
      (classNamed "Map".toList "n".toList) := by
  have hfind : maps.find .word "Map<Key, Value>".toList ["n".toList, "m".toList] =
      .ok (some (2, classNamed "Map".toList "n".toList)) := by decide +kernel
  exact ⟨hfind, ((find_eq_iff_denotes maps (by decide +kernel) .word "Map<Key, Value>".toList
    ["n".toList, "m".toList]).2.2 2 _).1 hfind⟩

end Diagram

end ClassDiagram
