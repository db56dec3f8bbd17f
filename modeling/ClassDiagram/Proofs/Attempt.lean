import ClassDiagram.Fault

/-!
# Attempts that may fail

How results and failures come out of a chain of attempts, of attempts on the elements of a list, and
of a list of attempts that is gone through up to the first failure.
-/
namespace ClassDiagram

section
variable {ε α β : Type}

@[simp] theorem ok_bind (a : α) (f : α → Except ε β) : (Except.ok a >>= f) = f a := rfl

@[simp] theorem error_bind (e : ε) (f : α → Except ε β) : (Except.error e >>= f) = .error e := rfl

@[simp] theorem pure_eq_ok (a : α) : (pure a : Except ε α) = .ok a := rfl

@[simp] theorem mapError_ok {ε' : Type} (a : α) (f : ε → ε') :
    (Except.ok a).mapError f = .ok a := rfl

theorem bind_eq_ok_iff {x : Except ε α} {f : α → Except ε β} {b : β} :
    x >>= f = .ok b ↔ ∃ a, x = .ok a ∧ f a = .ok b := by
  cases x <;> simp

theorem mapM_eq_ok {f : α → Except ε β} {g : α → β} {xs : List α} (h : ∀ x ∈ xs, f x = .ok (g x)) :
    xs.mapM f = .ok (xs.map g) := by
  induction xs with
  | nil => rfl
  | cons x xs ih => simp [h x, ih fun y hy => h y (by simp [hy])]

theorem exists_of_mem_mapM {f : α → Except ε β} {xs : List α} {ys : List β} {y : β}
    (h : xs.mapM f = .ok ys) (hy : y ∈ ys) : ∃ x ∈ xs, f x = .ok y := by
  induction xs generalizing ys with
  | nil =>
    obtain rfl : ys = [] := by simpa [eq_comm] using h
    simp at hy
  | cons x xs ih =>
    rw [List.mapM_cons] at h
    obtain ⟨z, hz, h⟩ := bind_eq_ok_iff.1 h
    obtain ⟨zs, hzs, h⟩ := bind_eq_ok_iff.1 h
    obtain rfl : z :: zs = ys := by simpa using h
    rcases List.mem_cons.1 hy with rfl | hy
    · exact ⟨x, by simp, hz⟩
    · obtain ⟨x', hx', hf⟩ := ih hzs hy
      exact ⟨x', by simp [hx'], hf⟩

theorem exists_mem_of_mapM {f : α → Except ε β} {xs : List α} {ys : List β} {x : α}
    (h : xs.mapM f = .ok ys) (hx : x ∈ xs) : ∃ y ∈ ys, f x = .ok y := by
  induction xs generalizing ys with
  | nil => simp at hx
  | cons z xs ih =>
    rw [List.mapM_cons] at h
    obtain ⟨y, hy, h⟩ := bind_eq_ok_iff.1 h
    obtain ⟨rest, hrest, h⟩ := bind_eq_ok_iff.1 h
    obtain rfl : y :: rest = ys := by simpa using h
    rcases List.mem_cons.1 hx with rfl | hx
    · exact ⟨y, by simp, hy⟩
    · obtain ⟨y', hy', hf⟩ := ih hrest hx
      exact ⟨y', by simp [hy'], hf⟩

end

theorem mem_of_mem_collect {α : Type} {xs : List (Except Fault α)} {a : α}
    (h : a ∈ (collect xs).1) : .ok a ∈ xs := by
  induction xs with
  | nil => simp [collect] at h
  | cons x xs ih =>
    cases x with
    | error e => simp [collect] at h
    | ok b =>
      rcases List.mem_cons.1 h with rfl | h
      · simp
      · simp [ih h]

/-- An attempt fails for reasons of one kind only. -/
def FailsOnly {α : Type} (reason : Fault → Prop) (x : Except Fault α) : Prop :=
  ∀ f, x = .error f → reason f

namespace FailsOnly
variable {α β : Type} {reason : Fault → Prop}

theorem ok (a : α) : FailsOnly reason (Except.ok a : Except Fault α) := by
  intro f hf
  simp at hf

theorem mono {reason' : Fault → Prop} {x : Except Fault α} (h : FailsOnly reason x)
    (himp : ∀ f, reason f → reason' f) : FailsOnly reason' x := fun f hf => himp f (h f hf)

theorem bind {x : Except Fault α} {next : α → Except Fault β} (h : FailsOnly reason x)
    (hnext : ∀ a, x = .ok a → FailsOnly reason (next a)) : FailsOnly reason (x >>= next) := by
  cases x with
  | ok a => exact hnext a rfl
  | error e =>
    intro f hf
    exact h f (by simpa using hf)

theorem mapM {g : α → Except Fault β} {xs : List α} (h : ∀ x ∈ xs, FailsOnly reason (g x)) :
    FailsOnly reason (xs.mapM g) := by
  induction xs with
  | nil => exact ok []
  | cons x xs ih =>
    rw [List.mapM_cons]
    refine (h x (by simp)).bind fun y _ => ?_
    exact (ih fun z hz => h z (by simp [hz])).bind fun ys _ => ok _

/-- The failure at which a list of attempts stops is that of one of them. -/
theorem collect {xs : List (Except Fault α)} (h : ∀ x ∈ xs, FailsOnly reason x) {f : Fault}
    (hf : (collect xs).2 = some f) : reason f := by
  induction xs with
  | nil => simp [ClassDiagram.collect] at hf
  | cons x xs ih =>
    cases x with
    | error e =>
      obtain rfl : e = f := by simpa [ClassDiagram.collect] using hf
      exact h (.error e) (by simp) e rfl
    | ok a => exact ih (fun y hy => h y (by simp [hy])) (by simpa [ClassDiagram.collect] using hf)

end FailsOnly

/-- What some attempts found up to the first failure, and that failure. -/
def successes {α : Type} (attempts : List (Except Fault (Option α))) : List α × Option Fault :=
  ((collect attempts).1.filterMap id, (collect attempts).2)

section
variable {α β : Type} {xs : List α}

theorem successes_map {f : α → Except Fault (Option β)} {g : α → Option β}
    (h : ∀ x ∈ xs, f x = .ok (g x)) : successes (xs.map f) = (xs.filterMap g, none) := by
  have hmap : xs.map f = (xs.map g).map .ok := by
    rw [List.map_map]
    exact List.map_congr_left h
  rw [successes, hmap, collect_map_ok, List.filterMap_map]
  rfl

theorem successes_flatMap {f : α → List (Except Fault (Option β))} {g : α → List β}
    (h : ∀ x ∈ xs, successes (f x) = (g x, none)) :
    successes (xs.flatMap f) = (xs.flatMap g, none) := by
  induction xs with
  | nil => rfl
  | cons x xs ih =>
    obtain ⟨hx, hnone⟩ := Prod.mk.inj (h x (by simp))
    obtain ⟨hxs, hnone'⟩ := Prod.mk.inj (ih fun y hy => h y (by simp [hy]))
    rw [List.flatMap_cons, successes, collect_append _ _ hnone, List.filterMap_append, hx, hxs,
      hnone', List.flatMap_cons]

theorem mem_of_mem_successes {attempts : List (Except Fault (Option α))} {a : α}
    (h : a ∈ (successes attempts).1) : .ok (some a) ∈ attempts := by
  obtain ⟨o, ho, rfl⟩ := List.mem_filterMap.1 h
  exact mem_of_mem_collect ho

end

end ClassDiagram
