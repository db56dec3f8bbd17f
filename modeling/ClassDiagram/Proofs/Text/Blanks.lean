import ClassDiagram.Text.Blank
import Mathlib.Data.List.Chain

/-!
# Taking characters away in front of others

`dropInFront` takes away the characters of one kind that stand in front of a character of another
kind. What it leaves is said of two neighbours at a time: `NoneBefore first second t` excludes a
character of the first kind directly in front of one of the second. The texts without such a pair
are those that stay as they are. A pair that was excluded before is excluded afterwards, if the
characters at which the dropping stops are not of its second kind.

Collapsing blanks is the case in which both kinds are the blanks.
-/
namespace ClassDiagram.Text

/-- No character of the first kind stands directly in front of one of the second. -/
def NoneBefore (first second : Char → Bool) (t : Text) : Prop :=
  ∀ a b, [a, b] <:+: t → ¬ (first a = true ∧ second b = true)

/-- Takes away the characters of one kind in front of those of another. -/
def dropInFront (goes stops : Char → Bool) : Text → Text
  | [] => []
  | c :: r =>
    let rest := dropInFront goes stops r
    if goes c && rest.head?.any stops then rest else c :: rest

/-- A text without its blanks. -/
def withoutBlanks (t : Text) : Text := t.filter fun c => !isBlank c

section
variable {first second : Char → Bool} {c : Char} {r : Text}

theorem noneBefore_iff_isChain {t : Text} :
    NoneBefore first second t ↔ t.IsChain fun a b => ¬ (first a = true ∧ second b = true) := by
  rw [List.isChain_iff_forall_rel_of_append_cons_cons]
  constructor
  · rintro h a b front back rfl
    exact h a b ⟨front, back, by simp⟩
  · rintro h a b ⟨front, back, rfl⟩
    have hsplit : front ++ [a, b] ++ back = front ++ a :: b :: back := by simp
    exact h hsplit

theorem noneBefore_nil : NoneBefore first second [] :=
  noneBefore_iff_isChain.2 .nil

theorem noneBefore_cons_iff :
    NoneBefore first second (c :: r) ↔
      ¬ (first c = true ∧ r.head?.any second = true) ∧ NoneBefore first second r := by
  rw [noneBefore_iff_isChain, noneBefore_iff_isChain, List.isChain_cons]
  refine and_congr_left fun _ => ?_
  cases r with
  | nil => simp
  | cons d r => simp

end

section
variable (goes stops : Char → Bool)

/-- The first character that is left was the first before, or the dropping stopped at it. -/
theorem head?_dropInFront (t : Text) :
    (dropInFront goes stops t).head? = t.head? ∨
      (dropInFront goes stops t).head?.any stops = true := by
  cases t with
  | nil => exact .inl rfl
  | cons c r =>
    simp only [dropInFront]
    split
    · rename_i hdrop
      exact .inr (Bool.and_eq_true _ _ ▸ hdrop).2
    · exact .inl rfl

theorem noneBefore_dropInFront (t : Text) : NoneBefore goes stops (dropInFront goes stops t) := by
  induction t with
  | nil => exact noneBefore_nil
  | cons c r ih =>
    simp only [dropInFront]
    split
    · exact ih
    · rename_i hkeep
      rw [Bool.and_eq_true] at hkeep
      exact noneBefore_cons_iff.2 ⟨hkeep, ih⟩

/-- Dropping makes no new neighbours but those in front of a character at which it stops. -/
theorem NoneBefore.dropInFront {first second stops : Char → Bool} {t : Text}
    (h : NoneBefore first second t) (hstops : ∀ b, stops b = true → second b = false) :
    NoneBefore first second (dropInFront goes stops t) := by
  induction t with
  | nil => exact noneBefore_nil
  | cons c r ih =>
    obtain ⟨hpair, hrest⟩ := noneBefore_cons_iff.1 h
    simp only [Text.dropInFront]
    split
    · exact ih hrest
    · refine noneBefore_cons_iff.2 ⟨?_, ih hrest⟩
      rintro ⟨hfirst, hsecond⟩
      rcases head?_dropInFront goes stops r with hhead | hstop
      · rw [hhead] at hsecond
        exact hpair ⟨hfirst, hsecond⟩
      · obtain ⟨b, hb, hstop⟩ := (Option.any_eq_true _ _).1 hstop
        rw [hb, Option.any_some, hstops b hstop] at hsecond
        exact Bool.noConfusion hsecond

theorem dropInFront_eq_self {goes stops : Char → Bool} {t : Text} (h : NoneBefore goes stops t) :
    dropInFront goes stops t = t := by
  induction t with
  | nil => rfl
  | cons c r ih =>
    obtain ⟨hpair, hrest⟩ := noneBefore_cons_iff.1 h
    simp only [dropInFront, ih hrest]
    rw [if_neg (by rwa [Bool.and_eq_true])]

theorem withoutBlanks_cons_of_isBlank {c : Char} {r : Text} (hc : isBlank c = true) :
    withoutBlanks (c :: r) = withoutBlanks r := by
  simp [withoutBlanks, hc]

/-- Two texts that go on alike behind a character stay alike without blanks. -/
theorem withoutBlanks_cons_congr {c : Char} {r s : Text} (h : withoutBlanks r = withoutBlanks s) :
    withoutBlanks (c :: r) = withoutBlanks (c :: s) := by
  simp only [withoutBlanks, List.filter_cons] at h ⊢
  rw [h]

theorem withoutBlanks_dropInFront {goes stops : Char → Bool}
    (hgoes : ∀ c, goes c = true → isBlank c = true) (t : Text) :
    withoutBlanks (dropInFront goes stops t) = withoutBlanks t := by
  induction t with
  | nil => rfl
  | cons c r ih =>
    simp only [dropInFront]
    split
    · rename_i hdrop
      have hblank := hgoes c (Bool.and_eq_true _ _ ▸ hdrop).1
      rw [ih, withoutBlanks_cons_of_isBlank hblank]
    · exact withoutBlanks_cons_congr ih

end

theorem collapseBlanks_eq_dropInFront (t : Text) :
    collapseBlanks t = dropInFront isBlank isBlank t := by
  induction t with
  | nil => rfl
  | cons c r ih =>
    have hhead : (dropInFront isBlank isBlank r).head?.any isBlank = r.head?.any isBlank := by
      cases r with
      | nil => rfl
      | cons d r =>
        simp only [dropInFront]
        split
        · rename_i hdrop
          rw [Bool.and_eq_true] at hdrop
          rw [hdrop.2]
          exact hdrop.1.symm
        · rfl
    simp only [collapseBlanks, dropInFront, ih, hhead]

end ClassDiagram.Text
