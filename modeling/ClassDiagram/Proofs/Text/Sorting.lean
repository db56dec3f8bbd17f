import ClassDiagram.Text.Basic

/-!
# Sorting by keys

The orders of texts and of sort keys are total. A list sorted by a key that tells its elements apart
does not depend on the order in which the elements came. This is what makes the order of sources
invisible once a diagram is sorted. Elements of one key keep their order, so two lists are the same
when sorted exactly if the elements of each key come in the same order in both (`sortBy_eq_iff`).
-/
namespace ClassDiagram.Text

theorem le_total (s t : Text) : le s t = true ∨ le t s = true := by
  fun_induction le s t with
  | case1 t => exact .inl rfl
  | case2 a s => exact .inr rfl
  | case3 a s b t ih =>
    simp only [le, Bool.or_eq_true, Bool.and_eq_true, decide_eq_true_eq]
    by_cases hab : a < b
    · exact .inl (.inl hab)
    · by_cases hba : b < a
      · exact .inr (.inl hba)
      · obtain rfl : a = b := Char.le_antisymm (Char.not_lt.1 hba) (Char.not_lt.1 hab)
        exact ih.imp (fun h => .inr ⟨rfl, h⟩) fun h => .inr ⟨rfl, h⟩

theorem le_antisymm {s t : Text} (h : le s t = true) (h' : le t s = true) : s = t := by
  fun_induction le s t with
  | case1 t =>
    cases t with
    | nil => rfl
    | cons b t => simp [le] at h'
  | case2 a s => simp at h
  | case3 a s b t ih =>
    simp only [le, Bool.or_eq_true, Bool.and_eq_true, decide_eq_true_eq] at h h'
    rcases h with h | ⟨rfl, h⟩
    · rcases h' with h' | ⟨rfl, -⟩
      · exact absurd h' (Char.lt_asymm h)
      · exact absurd h (Char.lt_irrefl _)
    · rcases h' with h' | ⟨-, h'⟩
      · exact absurd h' (Char.lt_irrefl _)
      · rw [ih h h']

theorem le_trans {s t u : Text} (h : le s t = true) (h' : le t u = true) : le s u = true := by
  fun_induction le s t generalizing u with
  | case1 t => rfl
  | case2 a s => simp at h
  | case3 a s b t ih =>
    cases u with
    | nil => simp [le] at h'
    | cons c u =>
      simp only [le, Bool.or_eq_true, Bool.and_eq_true, decide_eq_true_eq] at h h' ⊢
      rcases h with h | ⟨rfl, h⟩
      · rcases h' with h' | ⟨rfl, -⟩
        · exact .inl (Char.lt_trans h h')
        · exact .inl h
      · exact h'.imp id fun ⟨hc, h'⟩ => ⟨hc, ih h h'⟩

/-- A common beginning does not matter to the order. -/
theorem le_append_left (s t u : Text) : le (s ++ t) (s ++ u) = le t u := by
  induction s with
  | nil => rfl
  | cons c s ih =>
    have hc : decide (c < c) = false := decide_eq_false (Char.lt_irrefl c)
    simp only [List.cons_append, le, hc, ih, decide_true, Bool.true_and, Bool.false_or]

namespace Key

theorem le_total (a b : Key) : Key.le a b = true ∨ Key.le b a = true := by
  fun_induction Key.le a b with
  | case1 b => exact .inl rfl
  | case2 s a => exact .inr rfl
  | case3 a s b ih => simpa [Key.le] using ih
  | case4 s a t b hne => simpa [Key.le, hne, Ne.symm hne] using Text.le_total s t

theorem le_antisymm {a b : Key} (h : Key.le a b = true) (h' : Key.le b a = true) : a = b := by
  fun_induction Key.le a b with
  | case1 b =>
    cases b with
    | nil => rfl
    | cons t b => simp [Key.le] at h'
  | case2 s a => simp at h
  | case3 a s b ih => rw [ih h (by simpa [Key.le] using h')]
  | case4 s a t b hne =>
    have hts : Text.le t s = true := by simpa [Key.le, Ne.symm hne] using h'
    exact absurd (Text.le_antisymm h hts) hne

theorem le_trans {a b c : Key} (h : Key.le a b = true) (h' : Key.le b c = true) :
    Key.le a c = true := by
  fun_induction Key.le a b generalizing c with
  | case1 b => rfl
  | case2 s a => simp at h
  | case3 a s b ih =>
    cases c with
    | nil => simp [Key.le] at h'
    | cons u c =>
      by_cases hsu : s = u
      · subst hsu
        simp only [Key.le, if_true] at h' ⊢
        exact ih h h'
      · simpa [Key.le, hsu] using h'
  | case4 s a t b hne =>
    cases c with
    | nil => simp [Key.le] at h'
    | cons u c =>
      by_cases htu : t = u
      · subst htu
        simpa [Key.le, hne] using h
      · have htu' : Text.le t u = true := by simpa [Key.le, htu] using h'
        have hsu : s ≠ u := by
          rintro rfl
          exact hne (Text.le_antisymm h htu')
        simpa [Key.le, hsu] using Text.le_trans h htu'

end Key

section
variable {α : Type} (key : α → Key)

theorem pairwise_insertBy (x : α) {xs : List α}
    (h : xs.Pairwise fun a b => Key.le (key a) (key b) = true) :
    (insertBy key x xs).Pairwise fun a b => Key.le (key a) (key b) = true := by
  induction xs with
  | nil => simp [insertBy]
  | cons y ys ih =>
    obtain ⟨hy, hys⟩ := List.pairwise_cons.1 h
    unfold insertBy
    split
    · rename_i hxy
      refine List.pairwise_cons.2 ⟨?_, h⟩
      intro z hz
      rcases List.mem_cons.1 hz with rfl | hz
      · exact hxy
      · exact Key.le_trans hxy (hy z hz)
    · rename_i hxy
      have hyx : Key.le (key y) (key x) = true := (Key.le_total _ _).resolve_right hxy
      refine List.pairwise_cons.2 ⟨?_, ih hys⟩
      intro z hz
      rcases List.mem_cons.1 ((perm_insertBy key x ys).mem_iff.1 hz) with rfl | hz
      · exact hyx
      · exact hy z hz

theorem pairwise_sortBy (xs : List α) :
    (sortBy key xs).Pairwise fun a b => Key.le (key a) (key b) = true := by
  induction xs with
  | nil => exact .nil
  | cons x xs ih => exact pairwise_insertBy key x ih

/-- The order of the elements does not matter to sorting by a key that tells them apart. -/
theorem sortBy_eq_of_perm {xs ys : List α} (h : xs.Perm ys)
    (hkey : ∀ x ∈ xs, ∀ y ∈ xs, key x = key y → x = y) : sortBy key xs = sortBy key ys := by
  have hperm : (sortBy key xs).Perm (sortBy key ys) :=
    (perm_sortBy key xs).trans (h.trans (perm_sortBy key ys).symm)
  refine hperm.eq_of_pairwise ?_ (pairwise_sortBy key xs) (pairwise_sortBy key ys)
  intro x y hx hy hxy hyx
  exact hkey x (mem_sortBy.1 hx) y (h.mem_iff.2 (mem_sortBy.1 hy)) (Key.le_antisymm hxy hyx)

/-- The elements of a key, in their order. -/
def ties (k : Key) (xs : List α) : List α := xs.filter fun x => key x = k

theorem ties_cons (k : Key) (x : α) (xs : List α) :
    ties key k (x :: xs) = if key x = k then x :: ties key k xs else ties key k xs := by
  simp [ties, List.filter_cons]

theorem ties_append (k : Key) (xs ys : List α) :
    ties key k (xs ++ ys) = ties key k xs ++ ties key k ys := List.filter_append xs ys

theorem mem_ties {k : Key} {x : α} {xs : List α} : x ∈ ties key k xs ↔ x ∈ xs ∧ key x = k := by
  simp [ties]

theorem ties_insertBy (k : Key) (x : α) (xs : List α) :
    ties key k (insertBy key x xs) = ties key k (x :: xs) := by
  induction xs with
  | nil => rfl
  | cons y ys ih =>
    unfold insertBy
    split
    · rfl
    · rename_i hxy
      have hne : key x ≠ key y := fun h => hxy (h ▸ (Key.le_total _ _).elim id id)
      rw [ties_cons, ih, ties_cons, ties_cons, ties_cons]
      by_cases hy : key y = k
      · have hx : key x ≠ k := hy ▸ hne
        simp only [if_pos hy, if_neg hx]
      · simp only [if_neg hy]

/-- Sorting is stable. -/
theorem ties_sortBy (k : Key) (xs : List α) : ties key k (sortBy key xs) = ties key k xs := by
  induction xs with
  | nil => rfl
  | cons x xs ih => rw [sortBy, ties_insertBy, ties_cons, ties_cons, ih]

/-- A sorted list is made of its elements of each key. -/
theorem eq_of_ties {xs ys : List α}
    (hxs : xs.Pairwise fun a b => Key.le (key a) (key b) = true)
    (hys : ys.Pairwise fun a b => Key.le (key a) (key b) = true)
    (h : ∀ k, ties key k xs = ties key k ys) : xs = ys := by
  have hmem : ∀ {xs ys : List α}, (∀ k, ties key k xs = ties key k ys) → ∀ {x}, x ∈ xs → x ∈ ys :=
    fun h x hx => ((mem_ties key).1 (h (key x) ▸ (mem_ties key).2 ⟨hx, rfl⟩)).1
  induction xs generalizing ys with
  | nil =>
    refine (List.eq_nil_iff_forall_not_mem.2 fun y hy => ?_).symm
    exact absurd (hmem (fun k => (h k).symm) hy) List.not_mem_nil
  | cons x xs ih =>
    match ys with
    | [] => exact absurd (hmem h List.mem_cons_self) List.not_mem_nil
    | y :: ys =>
      obtain ⟨hx, hxs'⟩ := List.pairwise_cons.1 hxs
      obtain ⟨hy, hys'⟩ := List.pairwise_cons.1 hys
      have hkey : key x = key y := by
        apply Key.le_antisymm
        · rcases List.mem_cons.1 (hmem (fun k => (h k).symm) List.mem_cons_self) with rfl | hyx
          · exact (Key.le_total _ _).elim id id
          · exact hx y hyx
        · rcases List.mem_cons.1 (hmem h List.mem_cons_self) with rfl | hxy
          · exact (Key.le_total _ _).elim id id
          · exact hy x hxy
      obtain rfl : x = y := by
        have hhead := h (key x)
        rw [ties_cons, ties_cons, if_pos rfl, if_pos hkey.symm] at hhead
        exact (List.cons.inj hhead).1
      refine congrArg (x :: ·) (ih hxs' hys' fun k => ?_)
      have htail := h k
      rw [ties_cons, ties_cons] at htail
      split at htail
      · exact (List.cons.inj htail).2
      · exact htail

theorem sortBy_eq_iff {xs ys : List α} :
    sortBy key xs = sortBy key ys ↔ ∀ k, ties key k xs = ties key k ys := by
  constructor
  · intro h k
    rw [← ties_sortBy, h, ties_sortBy]
  · intro h
    refine eq_of_ties key (pairwise_sortBy key xs) (pairwise_sortBy key ys) fun k => ?_
    rw [ties_sortBy, ties_sortBy, h]

@[simp] theorem sortBy_sortBy (xs : List α) : sortBy key (sortBy key xs) = sortBy key xs :=
  (sortBy_eq_iff key).2 fun k => ties_sortBy key k xs

/-- A part may be sorted before the whole. -/
theorem sortBy_append_left (xs ys : List α) :
    sortBy key (sortBy key xs ++ ys) = sortBy key (xs ++ ys) :=
  (sortBy_eq_iff key).2 fun k => by rw [ties_append, ties_append, ties_sortBy]

/-- Changes that keep the keys may be made before or after sorting. -/
theorem sortBy_map {f : α → α} (hf : ∀ x, key (f x) = key x) (xs : List α) :
    sortBy key (xs.map f) = (sortBy key xs).map f := by
  have hinsert : ∀ x ys, insertBy key (f x) (ys.map f) = (insertBy key x ys).map f := by
    intro x ys
    induction ys with
    | nil => rfl
    | cons y ys ih =>
      simp only [List.map_cons, insertBy, hf, ih]
      split <;> rfl
  induction xs with
  | nil => rfl
  | cons x xs ih => rw [List.map_cons, sortBy, ih, hinsert, sortBy]

end

theorem nodup_eraseDups {α : Type} [BEq α] [LawfulBEq α] : ∀ xs : List α, xs.eraseDups.Nodup
  | [] => by simp
  | x :: xs => by
    rw [List.eraseDups_cons, List.nodup_cons]
    refine ⟨?_, nodup_eraseDups _⟩
    rw [List.mem_eraseDups]
    simp
termination_by xs => xs.length
decreasing_by
  exact Nat.lt_succ_of_le (List.length_filter_le _ _)

end ClassDiagram.Text
