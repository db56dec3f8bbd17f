import ClassDiagram.Text.Word

/-!
# Components of qualified names

`components` cuts a text at every `::`, found from the left, and `qualify` joins pieces again. The
first part holds for every text, however its colons stand: the first few components of a text,
joined and cut again, are the same components. So a namespace and the namespaces around it can be
named by texts or by lists of components, whichever is at hand. And a text put together from two
pieces is cut like each of them, if no `::` stands across the seam.

The second part is on texts that are identifiers joined by `::`. None of their components holds a
colon, so cutting undoes joining there.
-/
namespace ClassDiagram.Text

@[simp] theorem components_nil : components [] = [[]] := by simp [components]

theorem components_colons (r : Text) : components (':' :: ':' :: r) = [] :: components r := by
  simp [components]

/-- A character that does not begin a `::` goes to the first component of what follows. -/
theorem components_cons {c : Char} {r w : Text} {ws : List Text} (hr : components r = w :: ws)
    (hc : ∀ r', c = ':' → r = ':' :: r' → False) : components (c :: r) = (c :: w) :: ws := by
  rw [components]
  · simp only [hr]
  · exact hc

theorem qualify_singleton (w : Text) : qualify [w] = w := rfl

theorem qualify_cons {ws : List Text} (w : Text) (h : ws ≠ []) :
    qualify (w :: ws) = w ++ colons ++ qualify ws := by
  cases ws with
  | nil => exact absurd rfl h
  | cons v ws => simp [qualify, joinWith]

theorem qualify_append {ws vs : List Text} (hw : ws ≠ []) (hv : vs ≠ []) :
    qualify (ws ++ vs) = qualify ws ++ colons ++ qualify vs := by
  induction ws with
  | nil => exact absurd rfl hw
  | cons w ws ih =>
    by_cases h : ws = []
    · subst h
      rw [List.singleton_append, qualify_cons w hv, qualify_singleton]
    · rw [List.cons_append, qualify_cons w (by simp [h]), qualify_cons w h, ih h]
      simp only [List.append_assoc]

theorem qualify_take_isPrefix (k : Nat) (ws : List Text) : qualify (ws.take k) <+: qualify ws := by
  by_cases hk : ws.take k = []
  · rw [hk]
    exact List.nil_prefix
  · by_cases hd : ws.drop k = []
    · have htake := List.take_of_length_le (List.drop_eq_nil_iff.1 hd)
      exact ⟨[], by rw [htake, List.append_nil]⟩
    · refine ⟨colons ++ qualify (ws.drop k), ?_⟩
      rw [← List.append_assoc, ← qualify_append hk hd, List.take_append_drop]

/-- The first components of a text are cut like the text itself. -/
theorem components_qualify_take (t : Text) {k : Nat} (hk : 0 < k) :
    (qualify (t.components.take k)).components = t.components.take k := by
  obtain ⟨k, rfl⟩ : ∃ n, k = n + 1 := ⟨k - 1, by omega⟩
  clear hk
  fun_induction components t generalizing k with
  | case1 => simp [qualify_singleton]
  | case2 r ih =>
    rw [List.take_succ_cons]
    cases k with
    | zero => simp [qualify_singleton]
    | succ k =>
      have hne : (components r).take (k + 1) ≠ [] := by simp [components_ne_nil]
      rw [qualify_nil_cons _ hne]
      exact (components_colons _).trans (congrArg _ (ih k))
  | case3 c r _ h => exact absurd h (components_ne_nil r)
  | case4 c r hc w ws hr ih =>
    have hrest := ih k
    rw [hr, List.take_succ_cons] at hrest
    rw [List.take_succ_cons, qualify_cons_cons]
    apply components_cons hrest
    intro r' hcolon hr'
    obtain ⟨s, hs⟩ := qualify_take_isPrefix (k + 1) (w :: ws)
    rw [List.take_succ_cons, ← hr, qualify_components r, hr'] at hs
    exact hc (r' ++ s) hcolon hs.symm

theorem components_qualify_of_isPrefix {t : Text} {ws : List Text} (hne : ws ≠ [])
    (h : ws <+: t.components) : (qualify ws).components = ws := by
  rw [List.prefix_iff_eq_take.1 h]
  exact components_qualify_take t (List.length_pos_iff.2 hne)

theorem components_qualify_dropLast {t : Text} (h : 1 < t.components.length) :
    (qualify t.components.dropLast).components = t.components.dropLast := by
  rw [List.dropLast_eq_take]
  exact components_qualify_take t (by omega)

/-- Cutting tells texts apart. -/
theorem components_injective {s t : Text} (h : s.components = t.components) : s = t := by
  rw [← qualify_components s, h, qualify_components]

/-- A component is cut no further. -/
theorem components_of_mem {t w : Text} (h : w ∈ t.components) : w.components = [w] := by
  fun_induction components t generalizing w with
  | case1 =>
    obtain rfl := List.mem_singleton.1 h
    simp
  | case2 r ih =>
    obtain rfl | h := List.mem_cons.1 h
    · simp
    · exact ih h
  | case3 c r _ hr => exact absurd hr (components_ne_nil r)
  | case4 c r hc v ws hr ih =>
    obtain rfl | h := List.mem_cons.1 h
    · have hv : components v = [v] := ih (by simp [hr])
      apply components_cons hv
      intro v' hcolon hv'
      -- `r` starts with `v`, so a colon at the head of `v` would have been cut off with `c`.
      obtain ⟨s, hs⟩ := qualify_take_isPrefix 1 (v :: ws)
      rw [List.take_succ_cons, List.take_zero, qualify_singleton, ← hr, qualify_components,
        hv'] at hs
      exact hc (v' ++ s) hcolon hs.symm
    · exact ih (by simp [hr, h])

/-- A component holds no other characters than the text. -/
theorem mem_of_mem_components {t w : Text} (hw : w ∈ t.components) {c : Char} (hc : c ∈ w) :
    c ∈ t := by
  fun_induction components t generalizing w with
  | case1 =>
    obtain rfl := List.mem_singleton.1 hw
    exact hc
  | case2 r ih =>
    rcases List.mem_cons.1 hw with rfl | hw
    · simp at hc
    · simp [ih hw hc]
  | case3 x r _ hr => exact absurd hr (components_ne_nil r)
  | case4 x r _ v ws hr ih =>
    rcases List.mem_cons.1 hw with rfl | hw
    · rcases List.mem_cons.1 hc with rfl | hc
      · exact List.mem_cons_self
      · exact List.mem_cons_of_mem x (ih (by simp [hr]) hc)
    · exact List.mem_cons_of_mem x (ih (by simp [hr, hw]) hc)

theorem getLastD_mem_components (t : Text) : t.components.getLast?.getD [] ∈ t.components := by
  rw [List.getLast?_eq_some_getLast (components_ne_nil t), Option.getD_some]
  exact List.getLast_mem (components_ne_nil t)

theorem properComponents_eq {t : Text} (h : [] ∉ t.components) :
    t.properComponents = t.components := by
  rw [properComponents, List.filter_eq_self]
  intro w hw
  simpa using fun hnil : w = [] => h (hnil ▸ hw)

theorem one_lt_length_components (s t : Text) : 1 < (components (s ++ colons ++ t)).length := by
  induction s with
  | nil =>
    have := List.length_pos_iff.2 (components_ne_nil t)
    change 1 < (components (':' :: ':' :: t)).length
    rw [components_colons, List.length_cons]
    omega
  | cons c s ih =>
    rw [List.cons_append, List.cons_append]
    generalize s ++ colons ++ t = r at ih
    by_cases hcut : ∃ r', c = ':' ∧ r = ':' :: r'
    · obtain ⟨r', rfl, rfl⟩ := hcut
      have := List.length_pos_iff.2 (components_ne_nil r')
      rw [components_colons, List.length_cons]
      omega
    · obtain ⟨w, ws, hr⟩ := List.exists_cons_of_ne_nil (components_ne_nil r)
      rw [components_cons hr fun r' hc hr' => hcut ⟨r', hc, hr'⟩]
      rwa [hr] at ih

/-- No `::` stands in a component. -/
theorem not_colons_isInfix_of_mem {t w : Text} (h : w ∈ t.components) : ¬ colons <:+: w := by
  rintro ⟨s, u, rfl⟩
  have hcut := one_lt_length_components s u
  rw [components_of_mem h] at hcut
  simp at hcut

theorem components_of_not_colons {t : Text} (h : ¬ colons <:+: t) : components t = [t] := by
  fun_induction components t with
  | case1 => rfl
  | case2 r ih => exact absurd (List.prefix_append colons r).isInfix h
  | case3 c r _ hr => exact absurd hr (components_ne_nil r)
  | case4 c r _ w ws hr ih =>
    have hrest := ih fun hcolons => h (hcolons.trans (List.suffix_cons c r).isInfix)
    obtain ⟨rfl, rfl⟩ : w = r ∧ ws = [] := by simpa [hr] using hrest
    rfl

/-- Two texts with no `::` across their seam are cut like each of them, except that the last
component of the first and the first one of the second grow together. -/
theorem components_append {s t w v : Text} {ws vs : List Text} (hs : s.components = ws ++ [w])
    (ht : t.components = v :: vs) (hseam : s.getLast? = some ':' → t.head? ≠ some ':') :
    (s ++ t).components = ws ++ (w ++ v) :: vs := by
  fun_induction components s generalizing w ws with
  | case1 =>
    obtain ⟨rfl, hw⟩ := List.append_eq_singleton_iff.1 hs.symm |>.resolve_right (by simp)
    obtain rfl := List.singleton_inj.1 hw
    exact ht
  | case2 r ih =>
    have hr : ∃ us, ws = [] :: us ∧ components r = us ++ [w] := by
      cases ws with
      | nil => exact absurd (List.cons.inj hs).2 (components_ne_nil r)
      | cons u us =>
        obtain ⟨rfl, hr⟩ := List.cons.inj hs
        exact ⟨us, rfl, hr⟩
    obtain ⟨us, rfl, hr⟩ := hr
    have hrest := ih hr fun hlast => hseam (by simp [List.getLast?_cons, hlast])
    rw [List.cons_append, List.cons_append, components_colons, hrest, List.cons_append]
  | case3 c r _ hr => exact absurd hr (components_ne_nil r)
  | case4 c r hc x xs hr ih =>
    have hseam' : r.getLast? = some ':' → t.head? ≠ some ':' := fun hlast =>
      hseam (by simp [List.getLast?_cons, hlast])
    have hstart : ∀ r', c = ':' → r ++ t = ':' :: r' → False := by
      intro r' hcolon hr'
      cases r with
      | nil => exact hseam (by simp [hcolon]) (by simp [show t = ':' :: r' from hr'])
      | cons y r => exact hc r hcolon (by rw [(List.cons.inj hr').1])
    cases ws with
    | nil =>
      obtain ⟨rfl, rfl⟩ := List.cons.inj hs
      have hr' : components r = [] ++ [x] := hr
      exact components_cons (ih hr' hseam') hstart
    | cons u us =>
      obtain ⟨rfl, rfl⟩ := List.cons.inj hs
      have hr' : components r = x :: us ++ [w] := hr
      exact components_cons (ih hr' hseam') hstart

/-- The last component ends like the text, unless that ends in a colon. -/
theorem getLast?_of_components {s w : Text} {ws : List Text} (hs : s.components = ws ++ [w])
    (hcolon : s.getLast? ≠ some ':') : w.getLast? = s.getLast? := by
  have hjoined := qualify_components s
  rw [hs] at hjoined
  by_cases hws : ws = []
  · subst hws
    rw [← hjoined]
    rfl
  · rw [qualify_append hws (List.cons_ne_nil w []), qualify_singleton] at hjoined
    rw [← hjoined] at hcolon ⊢
    cases w with
    | nil => simp [colons] at hcolon
    | cons x w => simp [List.getLast?_append, List.getLast?_cons]

theorem components_append_colons {w : Text} (t : Text) (h : ':' ∉ w) :
    components (w ++ colons ++ t) = w :: components t := by
  induction w with
  | nil => exact components_colons t
  | cons c w ih =>
    simp only [List.mem_cons, not_or] at h
    exact components_cons (ih h.2) fun _ hc => absurd hc.symm h.1

theorem components_of_notMem {w : Text} (h : ':' ∉ w) : components w = [w] := by
  induction w with
  | nil => simp
  | cons c w ih =>
    simp only [List.mem_cons, not_or] at h
    exact components_cons (ih h.2) fun _ hc => absurd hc.symm h.1

theorem components_qualify {ws : List Text} (hne : ws ≠ []) (h : ∀ w ∈ ws, ':' ∉ w) :
    (qualify ws).components = ws := by
  induction ws with
  | nil => exact absurd rfl hne
  | cons w ws ih =>
    have hw : ':' ∉ w := h w (by simp)
    by_cases hws : ws = []
    · subst hws
      exact components_of_notMem hw
    · rw [qualify_cons w hws, components_append_colons _ hw,
        ih hws fun v hv => h v (by simp [hv])]

theorem IsIdentifier.notMem {w : Text} (h : IsIdentifier w) {c : Char} (hc : isWord c = false) :
    c ∉ w := by
  intro hmem
  rw [h.2 c hmem] at hc
  exact Bool.noConfusion hc

theorem IsIdentifier.colon_notMem {w : Text} (h : IsIdentifier w) : ':' ∉ w := h.notMem (by decide)

theorem IsIdentifier.not_colons {w : Text} (h : IsIdentifier w) : ¬ colons <:+: w := fun hcolons =>
  h.colon_notMem (hcolons.subset (by simp [colons]))

/-- A qualified name: identifiers joined by `::`. -/
def IsQualified (t : Text) : Prop :=
  ∃ ws : List Text, ws ≠ [] ∧ (∀ w ∈ ws, IsIdentifier w) ∧ qualify ws = t

theorem isQualified_iff {t : Text} : IsQualified t ↔ ∀ w ∈ t.components, IsIdentifier w := by
  constructor
  · rintro ⟨ws, hne, hw, rfl⟩
    rwa [components_qualify hne fun w h => (hw w h).colon_notMem]
  · intro h
    exact ⟨t.components, components_ne_nil t, h, qualify_components t⟩

instance (t : Text) : Decidable (IsQualified t) := decidable_of_iff _ isQualified_iff.symm

namespace IsQualified
variable {s t : Text}

theorem isIdentifier (h : IsQualified t) {w : Text} (hw : w ∈ t.components) : IsIdentifier w :=
  isQualified_iff.1 h w hw

/-- A qualified name in front of a `::` is cut into its own components. -/
theorem components_append (h : IsQualified s) (t : Text) :
    components (s ++ colons ++ t) = s.components ++ components t := by
  obtain ⟨ws, hne, hw, rfl⟩ := h
  rw [components_qualify hne fun w h => (hw w h).colon_notMem]
  induction ws with
  | nil => exact absurd rfl hne
  | cons w ws ih =>
    have hcolon : ':' ∉ w := (hw w (by simp)).colon_notMem
    by_cases hws : ws = []
    · subst hws
      exact components_append_colons t hcolon
    · rw [qualify_cons w hws, List.append_assoc, List.append_assoc, List.append_assoc,
        ← List.append_assoc, components_append_colons _ hcolon, ← List.append_assoc,
        ih hws fun v hv => hw v (by simp [hv])]
      rfl

end IsQualified

end ClassDiagram.Text
