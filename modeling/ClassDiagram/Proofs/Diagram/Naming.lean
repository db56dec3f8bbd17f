import ClassDiagram.Diagram.Resolve
import ClassDiagram.Proofs.Pattern.WholeWord
import ClassDiagram.Proofs.Text.Components

/-!
# Containers named by identifiers

The name of a container, and its namespace if there is one, are mostly identifiers joined by `::`.
Then the qualified name falls into the components of both.

For the search of whole words less is enough: a name of literal characters can be searched for in
every text, and if word characters stand at its two ends, it is found in itself.
-/
namespace ClassDiagram
open Text

/-- The name of an end with its namespace in front. -/
def Endpoint.qualifiedName (e : Endpoint) : Text :=
  if e.ns = [] then e.name else e.ns ++ colons ++ e.name

namespace Container

/-- Name and namespace are identifiers joined by `::`; there may be no namespace. -/
structure IsNamed (c : Container) : Prop where
  name : IsQualified c.name
  ns : c.ns ≠ [] → IsQualified c.ns

instance (c : Container) : Decidable c.IsNamed :=
  decidable_of_iff (IsQualified c.name ∧ (c.ns ≠ [] → IsQualified c.ns))
    ⟨fun h => ⟨h.1, h.2⟩, fun h => ⟨h.name, h.ns⟩⟩

variable {c d : Container}

@[simp] theorem qualifiedName_endpoint (c : Container) :
    c.endpoint.qualifiedName = c.qualifiedName := rfl

theorem qualifiedName_congr (h : c.endpoint = d.endpoint) : c.qualifiedName = d.qualifiedName :=
  congrArg Endpoint.qualifiedName h

theorem components_qualifiedName (h : c.IsNamed) :
    c.qualifiedName.components = Namespace.parts c.ns ++ c.name.components := by
  rw [qualifiedName, Namespace.parts]
  split
  · simp
  · rename_i hns
    exact (h.ns hns).components_append c.name

theorem scope_eq (h : c.IsNamed) :
    c.scope = Namespace.parts c.ns ++ c.name.components.dropLast := by
  rw [scope, components_qualifiedName h, List.dropLast_append_of_ne_nil (components_ne_nil c.name)]

theorem IsNamed.isIdentifier_of_mem_parts (h : c.IsNamed) {w : Text}
    (hw : w ∈ Namespace.parts c.ns) : IsIdentifier w := by
  rw [Namespace.parts] at hw
  split at hw
  · simp at hw
  · rename_i hns
    exact (h.ns hns).isIdentifier hw

theorem isQualified_qualifiedName (h : c.IsNamed) : IsQualified c.qualifiedName := by
  rw [isQualified_iff, components_qualifiedName h]
  intro w hw
  rcases List.mem_append.1 hw with hw | hw
  · exact h.isIdentifier_of_mem_parts hw
  · exact h.name.isIdentifier hw

/-- The scope of a container whose name is a single identifier is its namespace. -/
theorem scope_of_isIdentifier (h : c.IsNamed) (hname : IsIdentifier c.name) :
    c.scope = Namespace.parts c.ns := by
  rw [scope_eq h, components_of_notMem hname.colon_notMem]
  simp

theorem components_of_isIdentifier (h : c.IsNamed) (hname : IsIdentifier c.name) :
    c.qualifiedName.components = c.scope ++ [c.name] := by
  rw [components_qualifiedName h, scope_of_isIdentifier h hname,
    components_of_notMem hname.colon_notMem]

end Container

theorem Namespace.parts_injective {s t : Text} (h : Namespace.parts s = Namespace.parts t) :
    s = t := by
  unfold Namespace.parts at h
  split at h
  · split at h
    · simp_all
    · exact absurd h.symm (components_ne_nil t)
  · split at h
    · exact absurd h (components_ne_nil s)
    · exact components_injective h

/-- The name and the scope of a container fix its namespace. -/
theorem Container.endpoint_eq_of_scope {c d : Container} (hc : c.IsNamed) (hd : d.IsNamed)
    (hname : c.name = d.name) (hscope : c.scope = d.scope) : c.endpoint = d.endpoint := by
  rw [scope_eq hc, scope_eq hd, hname] at hscope
  have hns : c.ns = d.ns := Namespace.parts_injective (List.append_cancel_right hscope)
  rw [endpoint, endpoint, hname, hns]

namespace Text

/-- Word characters stand at both ends of a text. -/
def HasWordEnds (t : Text) : Prop := t.head?.any isWord = true ∧ t.getLast?.any isWord = true

instance (t : Text) : Decidable (HasWordEnds t) := inferInstanceAs (Decidable (_ ∧ _))

theorem IsIdentifier.hasWordEnds {t : Text} (h : IsIdentifier t) : HasWordEnds t := by
  obtain ⟨hne, hword⟩ := h
  rw [HasWordEnds, List.head?_eq_some_head hne, List.getLast?_eq_some_getLast hne]
  exact ⟨hword _ (List.head_mem hne), hword _ (List.getLast_mem hne)⟩

theorem HasWordEnds.append {s t : Text} (hs : HasWordEnds s) (ht : HasWordEnds t) (u : Text) :
    HasWordEnds (s ++ u ++ t) := by
  obtain ⟨x, hx, hxword⟩ := (Option.any_eq_true _ _).1 hs.1
  obtain ⟨y, hy, hyword⟩ := (Option.any_eq_true _ _).1 ht.2
  constructor
  · simpa [List.head?_append, hx] using hxword
  · simpa [List.getLast?_append, hy] using hyword

namespace IsQualified
variable {t : Text}

theorem isWord_or_colon (h : IsQualified t) {c : Char} (hc : c ∈ t) :
    isWord c = true ∨ c = ':' := by
  obtain ⟨ws, -, hw, rfl⟩ := h
  induction ws with
  | nil => simp [qualify, joinWith] at hc
  | cons w ws ih =>
    have hword : c ∈ w → isWord c = true ∨ c = ':' := fun hc => .inl ((hw w (by simp)).2 c hc)
    by_cases hws : ws = []
    · subst hws
      exact hword hc
    · rw [qualify_cons w hws, List.append_assoc] at hc
      rcases List.mem_append.1 hc with hc | hc
      · exact hword hc
      · rcases List.mem_append.1 hc with hc | hc
        · exact .inr (by simpa [colons] using hc)
        · exact ih (fun v hv => hw v (by simp [hv])) hc

theorem isLiteral (h : IsQualified t) : ∀ c ∈ t, Pattern.isLiteral c = true := by
  intro c hc
  rcases h.isWord_or_colon hc with hc | rfl
  · exact Pattern.isLiteral_of_isWord hc
  · decide

theorem hasWordEnds (h : IsQualified t) : HasWordEnds t := by
  obtain ⟨ws, hne, hw, rfl⟩ := h
  induction ws with
  | nil => exact absurd rfl hne
  | cons w ws ih =>
    have hends := (hw w (by simp)).hasWordEnds
    by_cases hws : ws = []
    · subst hws
      exact hends
    · rw [qualify_cons w hws]
      exact hends.append (ih hws fun v hv => hw v (by simp [hv])) colons

end IsQualified

end Text

namespace Container

/-- Name and namespace hold no signs of patterns. -/
structure IsLiteral (c : Container) : Prop where
  name : ∀ x ∈ c.name, Pattern.isLiteral x = true
  ns : ∀ x ∈ c.ns, Pattern.isLiteral x = true

/-- The search for a container's name and qualified name fails in no text, and finds the name in
itself. -/
structure IsSearchable (c : Container) : Prop extends IsLiteral c where
  ends : HasWordEnds c.name

instance (c : Container) : Decidable c.IsSearchable :=
  decidable_of_iff (c.name.all Pattern.isLiteral = true ∧ c.ns.all Pattern.isLiteral = true ∧
    HasWordEnds c.name)
    ⟨fun ⟨h, h', h''⟩ => ⟨⟨List.all_eq_true.1 h, List.all_eq_true.1 h'⟩, h''⟩,
      fun h => ⟨List.all_eq_true.2 h.name, List.all_eq_true.2 h.ns, h.ends⟩⟩

theorem IsNamed.isSearchable {c : Container} (h : c.IsNamed) : c.IsSearchable where
  name := h.name.isLiteral
  ns := by
    by_cases hns : c.ns = []
    · simp [hns]
    · exact (h.ns hns).isLiteral
  ends := h.name.hasWordEnds

theorem IsLiteral.qualifiedName {c : Container} (h : c.IsLiteral) :
    ∀ x ∈ c.qualifiedName, Pattern.isLiteral x = true := by
  intro x hx
  rw [Container.qualifiedName] at hx
  split at hx
  · exact h.name x hx
  · simp only [List.mem_append] at hx
    rcases hx with (hx | hx) | hx
    · exact h.ns x hx
    · obtain rfl : x = ':' := by simpa [colons] using hx
      decide
    · exact h.name x hx

/-- No component of the name or the namespace is empty. -/
def IsProper (c : Container) : Prop := [] ∉ Namespace.parts c.ns ∧ [] ∉ c.name.components

instance (c : Container) : Decidable c.IsProper := inferInstanceAs (Decidable (_ ∧ _))

theorem IsNamed.isProper {c : Container} (h : c.IsNamed) : c.IsProper :=
  ⟨fun hmem => (h.isIdentifier_of_mem_parts hmem).1 rfl,
    fun hmem => (h.name.isIdentifier hmem).1 rfl⟩

/-- Names inside a container are resolved from the scope in which it is found itself. -/
theorem innerScope_eq_scope {c : Container} (h : c.IsNamed) : c.innerScope = c.scope := by
  rw [innerScope, scope_eq h, properComponents_eq h.isProper.2, Namespace.parts]
  split
  · rename_i hns
    simp [hns, properComponents]
  · rename_i hns
    rw [properComponents_eq fun hmem => ((h.ns hns).isIdentifier hmem).1 rfl]

end Container

/-- A qualified name without `::` is a single identifier. -/
theorem Text.IsQualified.isIdentifier_of_not_colons {t : Text} (h : IsQualified t)
    (hcolons : ¬ colons <:+: t) : IsIdentifier t := by
  obtain ⟨ws, hne, hw, rfl⟩ := h
  match ws, hne with
  | [w], _ => exact hw w (by simp)
  | w :: v :: ws, _ =>
    refine absurd ?_ hcolons
    rw [qualify_cons w (by simp)]
    exact List.infix_append w colons _

end ClassDiagram
