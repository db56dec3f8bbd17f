import ClassDiagram.Proofs.Text.Lines
import Mathlib.Data.List.Infix

/-!
# Balanced braces

`depthAfter` goes through a text with the number of braces that are open and stops at a brace that
closes none. A text is balanced if it leads from every depth back to that depth, so texts that are
balanced may be written one after the other and between a pair of braces. `depthAfter_eq_some_iff`
says the same by counting braces in the front parts of a text. Only the braces count: cutting a text
into lines and indenting these leaves it balanced.
-/
namespace ClassDiagram.Text

/-- The number of open braces behind a text that starts with `depth` of them; none if a brace closes
where none is open. -/
def depthAfter : Nat → Text → Option Nat
  | depth, [] => some depth
  | depth, c :: r =>
    if c = '\x7b' then depthAfter (depth + 1) r
    else if c = '\x7d' then
      match depth with
      | 0 => none
      | outer + 1 => depthAfter outer r
    else depthAfter depth r

/-- A text without braces. -/
def IsBraceFree (t : Text) : Prop := '\x7b' ∉ t ∧ '\x7d' ∉ t

instance (t : Text) : Decidable (IsBraceFree t) := inferInstanceAs (Decidable (_ ∧ _))

/-- The braces of a text in order. -/
def braces (t : Text) : Text := t.filter fun c => c = '\x7b' || c = '\x7d'

/-- A text that closes the braces which it opens, and no others. -/
def Balanced (t : Text) : Prop := ∀ depth, depthAfter depth t = some depth

/-- A text that leaves one brace open. -/
def Opens (t : Text) : Prop := ∀ depth, depthAfter depth t = some (depth + 1)

/-- A text that closes one brace more than it opens. -/
def Closes (t : Text) : Prop := ∀ depth, depthAfter (depth + 1) t = some depth

section
variable {depth : Nat} {r s t : Text}

@[simp] theorem depthAfter_nil : depthAfter depth [] = some depth := by simp [depthAfter]

@[simp] theorem depthAfter_open : depthAfter depth ('\x7b' :: r) = depthAfter (depth + 1) r := by
  simp [depthAfter]

@[simp] theorem depthAfter_close_zero : depthAfter 0 ('\x7d' :: r) = none := by
  simp [depthAfter]

@[simp] theorem depthAfter_close_succ :
    depthAfter (depth + 1) ('\x7d' :: r) = depthAfter depth r := by
  simp [depthAfter]

theorem depthAfter_other {c : Char} (hopen : c ≠ '\x7b') (hclose : c ≠ '\x7d') :
    depthAfter depth (c :: r) = depthAfter depth r := by
  simp [depthAfter, hopen, hclose]

theorem depthAfter_append :
    depthAfter depth (s ++ t) = (depthAfter depth s).bind fun inner => depthAfter inner t := by
  induction s generalizing depth with
  | nil => simp
  | cons c s ih =>
    rw [List.cons_append]
    by_cases hopen : c = '\x7b'
    · subst hopen
      simp only [depthAfter_open, ih]
    · by_cases hclose : c = '\x7d'
      · subst hclose
        cases depth with
        | zero => simp
        | succ outer => simp only [depthAfter_close_succ, ih]
      · simp only [depthAfter_other hopen hclose, ih]

/-- Braces that are open around a text and stay open do not matter. -/
theorem depthAfter_add (outer : Nat) {inner : Nat} (h : depthAfter depth t = some inner) :
    depthAfter (depth + outer) t = some (inner + outer) := by
  induction t generalizing depth with
  | nil =>
    obtain rfl : depth = inner := by simpa using h
    simp
  | cons c t ih =>
    by_cases hopen : c = '\x7b'
    · subst hopen
      rw [depthAfter_open] at h ⊢
      have hstep := ih h
      rwa [show depth + 1 + outer = depth + outer + 1 by omega] at hstep
    · by_cases hclose : c = '\x7d'
      · subst hclose
        cases depth with
        | zero => simp at h
        | succ depth =>
          rw [depthAfter_close_succ] at h
          rw [show depth + 1 + outer = depth + outer + 1 by omega, depthAfter_close_succ]
          exact ih h
      · rw [depthAfter_other hopen hclose] at h ⊢
        exact ih h

/-- The depth behind a text by the numbers of its braces: none of its front parts closes more than
was open before it or is opened in it. -/
theorem depthAfter_eq_some_iff {inner : Nat} :
    depthAfter depth t = some inner ↔
      (∀ s, s <+: t → s.count '\x7d' ≤ depth + s.count '\x7b') ∧
        depth + t.count '\x7b' = inner + t.count '\x7d' := by
  induction t generalizing depth with
  | nil => simp
  | cons c t ih =>
    have hfront : (∀ s, s <+: c :: t → s.count '\x7d' ≤ depth + s.count '\x7b') ↔
        ∀ s, s <+: t → (c :: s).count '\x7d' ≤ depth + (c :: s).count '\x7b' := by
      constructor
      · intro h s hs
        exact h (c :: s) (List.cons_prefix_cons.2 ⟨rfl, hs⟩)
      · intro h s hs
        rcases List.prefix_cons_iff.1 hs with rfl | ⟨s', rfl, hs'⟩
        · simp
        · exact h s' hs'
    rw [hfront]
    by_cases hopen : c = '\x7b'
    · subst hopen
      have hcount : ∀ s : Text, ('\x7b' :: s).count '\x7d' = s.count '\x7d' ∧
          ('\x7b' :: s).count '\x7b' = s.count '\x7b' + 1 := by simp
      simp only [depthAfter_open, ih, hcount, Nat.add_assoc, Nat.add_comm 1]
    · by_cases hclose : c = '\x7d'
      · subst hclose
        have hcount : ∀ s : Text, ('\x7d' :: s).count '\x7d' = s.count '\x7d' + 1 ∧
            ('\x7d' :: s).count '\x7b' = s.count '\x7b' := by simp
        simp only [hcount]
        cases depth with
        | zero =>
          constructor
          · intro h
            simp at h
          · rintro ⟨h, -⟩
            have hfirst := h [] (by simp)
            simp at hfirst
        | succ depth =>
          rw [depthAfter_close_succ, ih]
          have hside : ∀ a b : Nat, a + 1 ≤ depth + 1 + b ↔ a ≤ depth + b := by omega
          have hsum : ∀ a b : Nat, depth + 1 + a = inner + (b + 1) ↔ depth + a = inner + b := by
            omega
          simp only [hside, hsum]
      · have hcount : ∀ s : Text, (c :: s).count '\x7d' = s.count '\x7d' ∧
            (c :: s).count '\x7b' = s.count '\x7b' := by
          simp [List.count_cons_of_ne, hopen, hclose]
        simp only [depthAfter_other hopen hclose, ih, hcount]

theorem depthAfter_braces : depthAfter depth (braces t) = depthAfter depth t := by
  induction t generalizing depth with
  | nil => rfl
  | cons c t ih =>
    by_cases hopen : c = '\x7b'
    · subst hopen
      have hbraces : braces ('\x7b' :: t) = '\x7b' :: braces t := by simp [braces]
      rw [hbraces, depthAfter_open, depthAfter_open, ih]
    · by_cases hclose : c = '\x7d'
      · subst hclose
        have hbraces : braces ('\x7d' :: t) = '\x7d' :: braces t := by simp [braces]
        rw [hbraces]
        cases depth with
        | zero => simp
        | succ depth => rw [depthAfter_close_succ, depthAfter_close_succ, ih]
      · have hbraces : braces (c :: t) = braces t := by simp [braces, hopen, hclose]
        rw [hbraces, depthAfter_other hopen hclose, ih]

end

theorem braces_append (s t : Text) : braces (s ++ t) = braces s ++ braces t := List.filter_append ..

theorem IsBraceFree.braces_eq {t : Text} (h : IsBraceFree t) : braces t = [] := by
  refine List.filter_eq_nil_iff.2 fun c hc => ?_
  have hopen : c ≠ '\x7b' := fun heq => h.1 (heq ▸ hc)
  have hclose : c ≠ '\x7d' := fun heq => h.2 (heq ▸ hc)
  simp [hopen, hclose]

theorem IsBraceFree.of_subset {s t : Text} (ht : IsBraceFree t) (h : s ⊆ t) : IsBraceFree s :=
  ⟨fun hs => ht.1 (h hs), fun hs => ht.2 (h hs)⟩

theorem mem_joinWith {sep : Text} {ws : List Text} {c : Char} (h : c ∈ joinWith sep ws) :
    c ∈ sep ∨ ∃ w ∈ ws, c ∈ w := by
  fun_induction joinWith sep ws with
  | case1 => simp at h
  | case2 w => exact .inr ⟨w, by simp, h⟩
  | case3 w v ws ih =>
    rcases List.mem_append.1 h with h | h
    · rcases List.mem_append.1 h with h | h
      · exact .inr ⟨w, by simp, h⟩
      · exact .inl h
    · rcases ih h with h | ⟨u, hu, h⟩
      · exact .inl h
      · exact .inr ⟨u, by simp [hu], h⟩

theorem IsBraceFree.joinWith {sep : Text} {ws : List Text} (hsep : IsBraceFree sep)
    (h : ∀ w ∈ ws, IsBraceFree w) : IsBraceFree (joinWith sep ws) := by
  constructor
  · intro hmem
    rcases mem_joinWith hmem with hmem | ⟨w, hw, hmem⟩
    · exact hsep.1 hmem
    · exact (h w hw).1 hmem
  · intro hmem
    rcases mem_joinWith hmem with hmem | ⟨w, hw, hmem⟩
    · exact hsep.2 hmem
    · exact (h w hw).2 hmem

namespace Balanced

theorem of_depthAfter_zero {t : Text} (h : depthAfter 0 t = some 0) : Balanced t := by
  intro depth
  simpa using depthAfter_add depth h

theorem of_isBraceFree {t : Text} (h : IsBraceFree t) : Balanced t := by
  intro depth
  rw [← depthAfter_braces, h.braces_eq, depthAfter_nil]

theorem of_braces_eq {s t : Text} (hs : Balanced s) (h : braces t = braces s) : Balanced t := by
  intro depth
  rw [← depthAfter_braces, h, depthAfter_braces, hs]

theorem nil : Balanced [] := fun _ => depthAfter_nil

theorem append {s t : Text} (hs : Balanced s) (ht : Balanced t) : Balanced (s ++ t) := by
  intro depth
  rw [depthAfter_append, hs]
  exact ht depth

theorem flatMap {α : Type} {xs : List α} {f : α → Text} (h : ∀ x ∈ xs, Balanced (f x)) :
    Balanced (xs.flatMap f) := by
  induction xs with
  | nil => exact nil
  | cons x xs ih =>
    rw [List.flatMap_cons]
    exact (h x (by simp)).append (ih fun y hy => h y (by simp [hy]))

theorem joinWith {sep : Text} {ws : List Text} (hsep : Balanced sep) (h : ∀ w ∈ ws, Balanced w) :
    Balanced (joinWith sep ws) := by
  fun_induction Text.joinWith sep ws with
  | case1 => exact nil
  | case2 w => exact h w (by simp)
  | case3 w v ws ih =>
    have hrest : Balanced (Text.joinWith sep (v :: ws)) := ih fun u hu => h u (by simp [hu])
    exact ((h w (by simp)).append hsep).append hrest

theorem opens {s t : Text} (hs : Balanced s) (ht : Opens t) : Opens (s ++ t) := by
  intro depth
  rw [depthAfter_append, hs]
  exact ht depth

/-- A balanced text between a text that opens a brace and one that closes it. -/
theorem enclosed {opening body closing : Text} (hbody : Balanced body) (hopening : Opens opening)
    (hclosing : Closes closing) : Balanced (opening ++ body ++ closing) := by
  intro depth
  rw [depthAfter_append, depthAfter_append, hopening, Option.bind_some, hbody, Option.bind_some,
    hclosing]

/-- A balanced text by the numbers of its braces. -/
theorem count {t : Text} (h : Balanced t) :
    (∀ s, s <+: t → s.count '\x7d' ≤ s.count '\x7b') ∧ t.count '\x7b' = t.count '\x7d' := by
  simpa using depthAfter_eq_some_iff.1 (h 0)

end Balanced

theorem Opens.of_depthAfter_zero {t : Text} (h : depthAfter 0 t = some 1) : Opens t := by
  intro depth
  simpa [Nat.add_comm] using depthAfter_add depth h

theorem Closes.of_depthAfter_one {t : Text} (h : depthAfter 1 t = some 0) : Closes t := by
  intro depth
  simpa [Nat.add_comm] using depthAfter_add depth h

theorem braces_joinWith {sep : Text} (hsep : IsBraceFree sep) (ws : List Text) :
    braces (joinWith sep ws) = ws.flatMap braces := by
  fun_induction joinWith sep ws with
  | case1 => rfl
  | case2 w => simp
  | case3 w v ws ih =>
    rw [braces_append, braces_append, hsep.braces_eq, ih, List.append_nil]
    rfl

/-- No brace is lost when a text is cut into lines. -/
theorem flatMap_braces_splitLines (t : Text) : t.splitLines.flatMap braces = braces t := by
  have hcons : ∀ (c : Char) (r : Text), braces (c :: r) = braces [c] ++ braces r := fun c r =>
    braces_append [c] r
  have hend : ∀ {c : Char}, isLineEnd c = true → braces [c] = [] := by
    intro c hc
    refine IsBraceFree.braces_eq ⟨?_, ?_⟩
    · intro hmem
      rw [← List.mem_singleton.1 hmem] at hc
      exact absurd hc (by decide)
    · intro hmem
      rw [← List.mem_singleton.1 hmem] at hc
      exact absurd hc (by decide)
  fun_induction splitLines t with
  | case1 => rfl
  | case2 r ih =>
    rw [List.flatMap_cons, ih, hcons '\r', hcons '\n', hend (by decide), hend (by decide)]
    rfl
  | case3 c r _ hc ih =>
    rw [List.flatMap_cons, ih, hcons c, hend hc]
    rfl
  | case4 c r _ hc hr ih =>
    have hnil : braces r = [] := by simpa [hr] using ih.symm
    rw [hcons c, hnil]
    rfl
  | case5 c r _ hc l ls hr ih =>
    rw [hr, List.flatMap_cons] at ih
    rw [List.flatMap_cons, hcons c r, hcons c l, List.append_assoc, ih]

end ClassDiagram.Text
