import ClassDiagram.TypeText
import ClassDiagram.Proofs.Text.Blanks

/-!
# The normal form of type texts

A type text is normalized in four steps, each of which takes blanks away beside certain characters:
in front of a blank, in front of a pointer or reference sign, in front of an angle bracket and
behind one. No step undoes an earlier one: what it brings together is a sign or a bracket and its
new neighbour, and none of the pairs that were excluded before is of this kind. So in the end all
four kinds of pairs are excluded, and the texts without them are the ones that stay as they are.
-/
namespace ClassDiagram.TypeText
open Text

/-- A type text in normal form. -/
structure IsNormal (t : Text) : Prop where
  /-- No two blanks stand in a row. -/
  blanks : NoneBefore isBlank isBlank t
  /-- No space stands in front of a pointer or reference sign. -/
  signs : NoneBefore (· = ' ') isIndirection t
  /-- No blank stands in front of an angle bracket. -/
  beforeAngles : NoneBefore isBlank isAngle t
  /-- No blank stands behind an angle bracket. -/
  behindAngles : NoneBefore isAngle isBlank t

theorem isBlank_of_isIndirection {c : Char} (h : isIndirection c = true) : isBlank c = false := by
  simp only [isIndirection, Bool.or_eq_true, decide_eq_true_eq] at h
  rcases h with rfl | rfl <;> decide

theorem isBlank_of_isAngle {c : Char} (h : isAngle c = true) : isBlank c = false := by
  simp only [isAngle, Bool.or_eq_true, decide_eq_true_eq] at h
  rcases h with rfl | rfl <;> decide

theorem isIndirection_of_isAngle {c : Char} (h : isAngle c = true) : isIndirection c = false := by
  simp only [isAngle, Bool.or_eq_true, decide_eq_true_eq] at h
  rcases h with rfl | rfl <;> decide

theorem isBlank_of_eq_space (c : Char) (h : decide (c = ' ') = true) : isBlank c = true := by
  rw [of_decide_eq_true h]
  decide

theorem ne_space_of_isAngle {c : Char} (h : isAngle c = true) : decide (c = ' ') = false := by
  simp only [isAngle, Bool.or_eq_true, decide_eq_true_eq] at h
  rcases h with rfl | rfl <;> decide

theorem attachIndirections_eq_dropInFront (t : Text) :
    attachIndirections t = dropInFront (· = ' ') isIndirection t := by
  induction t with
  | nil => rfl
  | cons c r ih => simp only [attachIndirections, dropInFront, ih]

theorem dropBlanksBeforeAngles_eq_dropInFront (t : Text) :
    dropBlanksBeforeAngles t = dropInFront isBlank isAngle t := by
  induction t with
  | nil => rfl
  | cons c r ih => simp only [dropBlanksBeforeAngles, dropInFront, ih]

theorem normalize_eq (t : Text) :
    normalize t = dropBlanksBehindAngles false (dropInFront isBlank isAngle
      (dropInFront (· = ' ') isIndirection (dropInFront isBlank isBlank t))) := by
  rw [normalize, dropBlanksBeforeAngles_eq_dropInFront, attachIndirections_eq_dropInFront,
    collapseBlanks_eq_dropInFront]

section
variable {first second : Char → Bool}

/-- A text that does not stand behind a bracket keeps its first character. -/
theorem head?_dropBlanksBehindAngles (t : Text) :
    (dropBlanksBehindAngles false t).head? = t.head? := by
  cases t with
  | nil => rfl
  | cons c r => simp [dropBlanksBehindAngles]

/-- Behind a bracket no blank is left at the start. -/
theorem head?_dropBlanksBehindAngles_behind (t : Text) :
    (dropBlanksBehindAngles true t).head?.any isBlank = false := by
  induction t with
  | nil => rfl
  | cons c r ih =>
    rw [dropBlanksBehindAngles]
    split
    · exact ih
    · rename_i hkeep
      simpa using hkeep

theorem noneBefore_dropBlanksBehindAngles (behind : Bool) (t : Text) :
    NoneBefore isAngle isBlank (dropBlanksBehindAngles behind t) := by
  induction t generalizing behind with
  | nil => exact noneBefore_nil
  | cons c r ih =>
    rw [dropBlanksBehindAngles]
    split
    · exact ih true
    · refine noneBefore_cons_iff.2 ⟨?_, ih (isAngle c)⟩
      rintro ⟨hangle, hblank⟩
      rw [hangle, head?_dropBlanksBehindAngles_behind] at hblank
      exact Bool.noConfusion hblank

/-- Only brackets get new neighbours behind them. -/
theorem noneBefore_dropBlanksBehindAngles_of (hangle : ∀ a, isAngle a = true → first a = false)
    (behind : Bool) {t : Text} (h : NoneBefore first second t) :
    NoneBefore first second (dropBlanksBehindAngles behind t) := by
  induction t generalizing behind with
  | nil => exact noneBefore_nil
  | cons c r ih =>
    obtain ⟨hpair, hrest⟩ := noneBefore_cons_iff.1 h
    rw [dropBlanksBehindAngles]
    split
    · exact ih true hrest
    · refine noneBefore_cons_iff.2 ⟨?_, ih (isAngle c) hrest⟩
      rintro ⟨hfirst, hsecond⟩
      cases hc : isAngle c with
      | true =>
        rw [hangle c hc] at hfirst
        exact Bool.noConfusion hfirst
      | false =>
        rw [hc, head?_dropBlanksBehindAngles] at hsecond
        exact hpair ⟨hfirst, hsecond⟩

theorem dropBlanksBehindAngles_eq_self {behind : Bool} {t : Text}
    (hstart : ¬ (behind = true ∧ t.head?.any isBlank = true)) (h : NoneBefore isAngle isBlank t) :
    dropBlanksBehindAngles behind t = t := by
  induction t generalizing behind with
  | nil => rfl
  | cons c r ih =>
    obtain ⟨hpair, hrest⟩ := noneBefore_cons_iff.1 h
    rw [dropBlanksBehindAngles, if_neg (by simpa using hstart), ih hpair hrest]

theorem withoutBlanks_dropBlanksBehindAngles (behind : Bool) (t : Text) :
    withoutBlanks (dropBlanksBehindAngles behind t) = withoutBlanks t := by
  induction t generalizing behind with
  | nil => rfl
  | cons c r ih =>
    rw [dropBlanksBehindAngles]
    split
    · rename_i hdrop
      rw [ih, withoutBlanks_cons_of_isBlank (Bool.and_eq_true _ _ ▸ hdrop).2]
    · exact withoutBlanks_cons_congr (ih (isAngle c))

end

theorem isNormal_normalize (t : Text) : IsNormal (normalize t) := by
  rw [normalize_eq]
  have hblanks := noneBefore_dropInFront isBlank isBlank t
  generalize dropInFront isBlank isBlank t = collapsed at hblanks ⊢
  have hblanks := hblanks.dropInFront (· = ' ') fun _ => isBlank_of_isIndirection
  have hsigns := noneBefore_dropInFront (· = ' ') isIndirection collapsed
  generalize dropInFront (· = ' ') isIndirection collapsed = attached at hblanks hsigns ⊢
  have hblanks := hblanks.dropInFront isBlank fun _ => isBlank_of_isAngle
  have hsigns := hsigns.dropInFront isBlank fun _ => isIndirection_of_isAngle
  have hbefore := noneBefore_dropInFront isBlank isAngle attached
  exact ⟨noneBefore_dropBlanksBehindAngles_of (fun _ => isBlank_of_isAngle) false hblanks,
    noneBefore_dropBlanksBehindAngles_of (fun _ => ne_space_of_isAngle) false hsigns,
    noneBefore_dropBlanksBehindAngles_of (fun _ => isBlank_of_isAngle) false hbefore,
    noneBefore_dropBlanksBehindAngles false _⟩

theorem IsNormal.normalize_eq_self {t : Text} (h : IsNormal t) : normalize t = t := by
  rw [normalize_eq, dropInFront_eq_self h.blanks, dropInFront_eq_self h.signs,
    dropInFront_eq_self h.beforeAngles,
    dropBlanksBehindAngles_eq_self (fun hstart => Bool.noConfusion hstart.1) h.behindAngles]

theorem withoutBlanks_normalize (t : Text) : withoutBlanks (normalize t) = withoutBlanks t := by
  rw [normalize_eq, withoutBlanks_dropBlanksBehindAngles,
    withoutBlanks_dropInFront fun _ => id, withoutBlanks_dropInFront isBlank_of_eq_space,
    withoutBlanks_dropInFront fun _ => id]

/-- Normalizing gives a normal form that has the characters of the text in their order, apart from
blanks, and it changes no normal form. -/
theorem normalize_normalForm (t : Text) :
    IsNormal (normalize t) ∧ withoutBlanks (normalize t) = withoutBlanks t ∧
      normalize (normalize t) = normalize t :=
  ⟨isNormal_normalize t, withoutBlanks_normalize t, (isNormal_normalize t).normalize_eq_self⟩

/-- Of the two blanks in front of a sign the last one counts: a space goes, another blank stays. -/
example : normalize "a\t *b \t*c".toList = "a*b\t*c".toList := by decide +kernel

end ClassDiagram.TypeText
