import ClassDiagram.Proofs.Text.Blanks
import ClassDiagram.Proofs.Text.Lines

/-!
# Texts on a single line

`singleLine` collapses the runs of blanks and writes each blank that is left as a space. Every line
end is a blank, so none is left, whichever of them a text is later cut at. The texts that stay as
they are have spaces for blanks and no two of them in a row (`IsSpaced`), and the result is always
of this form. Nothing but blanks is touched: the text keeps its other characters and its words.
-/
namespace ClassDiagram.Text

/-- Every blank is a space, and no two stand in a row. -/
structure IsSpaced (t : Text) : Prop where
  spaces : ∀ c ∈ t, isBlank c = true → c = ' '
  single : NoneBefore isBlank isBlank t

/-- The words of a text: the pieces between its blanks that are not empty. -/
def words (t : Text) : List Text := (t.splitOnP isBlank).filter (· ≠ [])

/-- A blank as a space, and any other character as it is. -/
def spaceFor (c : Char) : Char := if isBlank c then ' ' else c

theorem spaceFor_of_isBlank {c : Char} (h : isBlank c = true) : spaceFor c = ' ' := if_pos h

theorem spaceFor_of_not_isBlank {c : Char} (h : isBlank c = false) : spaceFor c = c :=
  if_neg (by simp [h])

@[simp] theorem isBlank_spaceFor (c : Char) : isBlank (spaceFor c) = isBlank c := by
  cases h : isBlank c with
  | true =>
    rw [spaceFor_of_isBlank h]
    decide
  | false => rw [spaceFor_of_not_isBlank h, h]

theorem singleLine_eq (t : Text) :
    singleLine t = (dropInFront isBlank isBlank t).map spaceFor := by
  rw [← collapseBlanks_eq_dropInFront]
  rfl

theorem noneBefore_map_spaceFor {t : Text} (h : NoneBefore isBlank isBlank t) :
    NoneBefore isBlank isBlank (t.map spaceFor) := by
  induction t with
  | nil => exact noneBefore_nil
  | cons c r ih =>
    obtain ⟨hpair, hrest⟩ := noneBefore_cons_iff.1 h
    have hhead : (r.map spaceFor).head?.any isBlank = r.head?.any isBlank := by
      cases r with
      | nil => rfl
      | cons d r => exact isBlank_spaceFor d
    rw [List.map_cons, noneBefore_cons_iff, isBlank_spaceFor, hhead]
    exact ⟨hpair, ih hrest⟩

theorem isSpaced_singleLine (t : Text) : IsSpaced (singleLine t) := by
  rw [singleLine_eq]
  refine ⟨fun c hc hblank => ?_, noneBefore_map_spaceFor (noneBefore_dropInFront _ _ t)⟩
  obtain ⟨b, -, rfl⟩ := List.mem_map.1 hc
  rw [isBlank_spaceFor] at hblank
  exact spaceFor_of_isBlank hblank

theorem IsSpaced.singleLine_eq_self {t : Text} (h : IsSpaced t) : singleLine t = t := by
  have hsame : ∀ c ∈ t, spaceFor c = c := by
    intro c hc
    cases hblank : isBlank c with
    | true => rw [spaceFor_of_isBlank hblank, h.spaces c hc hblank]
    | false => exact spaceFor_of_not_isBlank hblank
  rw [singleLine_eq, dropInFront_eq_self h.single, List.map_congr_left hsame, List.map_id']

theorem IsSpaced.isOneLine {t : Text} (h : IsSpaced t) : IsOneLine t := by
  intro c hc
  cases hend : isLineEnd c with
  | false => rfl
  | true =>
    have hspace : c = ' ' := h.spaces c hc (isBlank_of_isLineEnd hend)
    rw [hspace] at hend
    exact absurd hend (by decide)

theorem withoutBlanks_map_spaceFor (t : Text) :
    withoutBlanks (t.map spaceFor) = withoutBlanks t := by
  induction t with
  | nil => rfl
  | cons c r ih =>
    rw [List.map_cons]
    cases hc : isBlank c with
    | true =>
      rw [withoutBlanks_cons_of_isBlank hc, ← ih]
      exact withoutBlanks_cons_of_isBlank (by rwa [isBlank_spaceFor])
    | false =>
      rw [spaceFor_of_not_isBlank hc]
      exact withoutBlanks_cons_congr ih

theorem withoutBlanks_singleLine (t : Text) : withoutBlanks (singleLine t) = withoutBlanks t := by
  rw [singleLine_eq, withoutBlanks_map_spaceFor, withoutBlanks_dropInFront fun _ => id]

/-- A blank ends the word in front of it. -/
theorem words_append_blank {c : Char} (hc : isBlank c = true) (s t : Text) :
    words (s ++ c :: t) = words s ++ words t := by
  have hcut := List.splitOnP_append_cons s t hc
  simp only [words, hcut, List.filter_append]

theorem words_cons_blank {c : Char} (hc : isBlank c = true) (t : Text) :
    words (c :: t) = words t := words_append_blank hc [] t

-- In both inductions `s` holds the characters of the word that has begun in front of the text.
theorem words_append_dropInFront (s t : Text) :
    words (s ++ dropInFront isBlank isBlank t) = words (s ++ t) := by
  induction t generalizing s with
  | nil => rfl
  | cons c r ih =>
    cases hc : isBlank c with
    | false =>
      have hkeep : dropInFront isBlank isBlank (c :: r) = c :: dropInFront isBlank isBlank r := by
        simp [dropInFront, hc]
      rw [hkeep, List.append_cons, List.append_cons s c r, ih]
    | true =>
      have hrest : words (dropInFront isBlank isBlank r) = words r := ih []
      rw [words_append_blank hc, ← hrest]
      simp only [dropInFront, hc, Bool.true_and]
      split
      · rename_i hnext
        obtain ⟨d, hd, hblank⟩ := (Option.any_eq_true _ _).1 hnext
        obtain ⟨u, hu⟩ := List.head?_eq_some_iff.1 hd
        rw [hu, words_append_blank hblank, words_cons_blank hblank]
      · exact words_append_blank hc _ _

theorem words_append_map_spaceFor (s t : Text) : words (s ++ t.map spaceFor) = words (s ++ t) := by
  induction t generalizing s with
  | nil => rfl
  | cons c r ih =>
    rw [List.map_cons]
    cases hc : isBlank c with
    | false => rw [spaceFor_of_not_isBlank hc, List.append_cons, List.append_cons s c r, ih]
    | true =>
      have hspace : isBlank (spaceFor c) = true := by rwa [isBlank_spaceFor]
      have hrest : words (r.map spaceFor) = words r := ih []
      rw [words_append_blank hc, words_append_blank hspace, hrest]

theorem words_singleLine (t : Text) : words (singleLine t) = words t := by
  rw [singleLine_eq]
  exact (words_append_map_spaceFor [] _).trans (words_append_dropInFront [] t)

end ClassDiagram.Text
