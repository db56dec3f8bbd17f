import ClassDiagram.Proofs.Diagram.Bases

/-!
# Which containers types mention

A type is looked up by its last component, and containers answer whose names stand there as whole
words. Of those in the longest scope along the path the leftmost is taken (`Diagram.IsLeftmost`). If
the last component is an identifier, it has no whole word but itself, and the leftmost container is
the nearest one of this name.
-/
namespace ClassDiagram
open Text

namespace Diagram

/-- A container in a prefix of a path whose name stands in a word. No container whose name stands
there is in a longer prefix, and none in the same scope stands further to the left. -/
structure IsLeftmost (d : Diagram) (word : Text) (path : List Text) (c : Container) : Prop where
  mem : c ∈ d.objects
  scope : c.scope <+: path
  stands : ∃ i, Pattern.wordAt c.name word i = true
  nearest : ∀ o ∈ d.objects, o.scope <+: path → (∃ i, Pattern.wordAt o.name word i = true) →
    o.scope.length ≤ c.scope.length
  leftmost : ∀ o ∈ d.objects, o.scope = c.scope → ∀ i, Pattern.wordAt o.name word i = true →
    ∃ j ≤ i, Pattern.wordAt c.name word j = true

variable {d : Diagram} {word : Text} {path : List Text} {c p : Container}

theorem isLeftmost_of_denotes {i : Nat} (h : d.Denotes .word word path i c) :
    d.IsLeftmost word path c := by
  obtain ⟨hi, scope, k, hscope, ⟨rfl, hstands⟩, hk, hlongest, hleast⟩ := h
  refine ⟨List.mem_of_getElem? hi, hscope, hstands, fun o ho hoscope hostands => ?_,
    fun o ho hoscope m hm => ?_⟩
  · exact Nat.le_of_not_lt fun hlt => hlongest o.scope hoscope hlt o ho ⟨rfl, hostands⟩
  · obtain ⟨j, hj⟩ := List.getElem?_of_mem ho
    obtain ⟨first, hfirst, hle⟩ := hleast j o hj ⟨hoscope, m, hm⟩
    have hle' : first ≤ m := by
      refine Nat.le_of_not_lt fun hlt => ?_
      rw [hfirst.2 m hlt] at hm
      exact Bool.noConfusion hm
    exact ⟨k, by omega, hk.1⟩

/-- What is said of a leftmost container holds of all with its name and namespace. -/
theorem IsLeftmost.congr (h : d.IsLeftmost word path p) (hc : c ∈ d.objects)
    (hend : c.endpoint = p.endpoint) : d.IsLeftmost word path c := by
  have hname : c.name = p.name := congrArg Endpoint.name hend
  have hscope : c.scope = p.scope := by
    rw [Container.scope, Container.scope, Container.qualifiedName_congr hend]
  refine ⟨hc, ?_, ?_, ?_, ?_⟩
  · exact hscope ▸ h.scope
  · exact hname ▸ h.stands
  · exact hscope ▸ h.nearest
  · rw [hname, hscope]
    exact h.leftmost

/-- Two leftmost containers have the same name and namespace. -/
theorem IsLeftmost.endpoint_eq (hnamed : ∀ c ∈ d.objects, c.IsNamed) (hword : ¬ colons <:+: word)
    (hc : d.IsLeftmost word path c) (hp : d.IsLeftmost word path p) :
    c.endpoint = p.endpoint := by
  have hscope : c.scope = p.scope := by
    have hle := hc.nearest p hp.mem hp.scope hp.stands
    have hle' := hp.nearest c hc.mem hc.scope hc.stands
    exact (List.prefix_of_prefix_length_le hc.scope hp.scope hle').eq_of_length (by omega)
  -- from the first place of either name one comes back to it through the other name
  have hanswers : c.Answers .word word c.scope := ⟨rfl, hc.stands⟩
  obtain ⟨i, hi, hfirst⟩ := Resolve.exists_firstAt (hnamed c hc.mem).isSearchable hanswers
  obtain ⟨j, hji, hj⟩ := hp.leftmost c hc.mem hscope i hi
  obtain ⟨k, hkj, hk⟩ := hc.leftmost p hp.mem hscope.symm j hj
  have hik : ¬ k < i := fun hlt => by
    rw [hfirst k hlt] at hk
    exact Bool.noConfusion hk
  obtain rfl : i = j := by omega
  have hidentifier : ∀ o ∈ d.objects, Pattern.wordAt o.name word i = true → IsIdentifier o.name :=
    fun o ho hoi => (hnamed o ho).name.isIdentifier_of_not_colons fun hcolons =>
      hword (hcolons.trans (Pattern.isInfix_of_wordAt hoi))
  have hname : c.name = p.name :=
    Pattern.eq_of_wordAt (hidentifier c hc.mem hi) (hidentifier p hp.mem hj) hi hj
  exact Container.endpoint_eq_of_scope (hnamed c hc.mem) (hnamed p hp.mem) hname hscope

/-- A name of which whole words count stands for the leftmost container of its last component. -/
theorem endpointOf_word_eq_some_iff (hnamed : ∀ c ∈ d.objects, c.IsNamed) {name : Text}
    {scope : List Text} {e : Endpoint} :
    endpointOf .word name scope d.objects = some e ↔
      ∃ c, d.IsLeftmost (lookedUp name) (lookupPath name scope) c ∧ c.endpoint = e := by
  refine endpointOf_eq_some_iff_of_denotes hnamed (fun i c => isLeftmost_of_denotes) ?_ ?_
  · intro c hc
    exact ⟨hc.mem, c.scope, hc.scope, rfl, hc.stands⟩
  · intro c c' hc hc'
    exact hc.endpoint_eq hnamed (not_colons_isInfix_getLast name) hc'

/-- An identifier has no whole word but itself. -/
theorem stands_iff_eq (hword : IsIdentifier word) (hc : c.IsNamed) :
    (∃ i, Pattern.wordAt c.name word i = true) ↔ c.name = word := by
  constructor
  · rintro ⟨i, hi⟩
    have hne : c.name ≠ [] := fun hnil => by
      have hends := hc.isSearchable.ends
      rw [hnil] at hends
      exact absurd hends (by decide)
    exact Pattern.eq_of_wordAt_of_forall_isWord hword.2 hne hi
  · rintro rfl
    exact ⟨0, Resolve.wordAt_self hword.hasWordEnds⟩

theorem isLeftmost_iff_isNearest (hnamed : ∀ c ∈ d.objects, c.IsNamed)
    (hword : IsIdentifier word) : d.IsLeftmost word path c ↔ d.IsNearest word path c := by
  have hstands : ∀ o ∈ d.objects, (∃ i, Pattern.wordAt o.name word i = true) ↔ o.name = word :=
    fun o ho => stands_iff_eq hword (hnamed o ho)
  constructor
  · intro h
    refine ⟨h.mem, (hstands c h.mem).1 h.stands, h.scope, fun o ho hname hscope => ?_⟩
    exact h.nearest o ho hscope ((hstands o ho).2 hname)
  · intro h
    refine ⟨h.mem, h.scope, (hstands c h.mem).2 h.name, fun o ho hscope ho' => ?_,
      fun o ho _ i hi => ⟨i, Nat.le_refl i, ?_⟩⟩
    · exact h.nearest o ho ((hstands o ho).1 ho') hscope
    · have hname : o.name = c.name := ((hstands o ho).1 ⟨i, hi⟩).trans h.name.symm
      exact hname ▸ hi

end Diagram

end ClassDiagram
