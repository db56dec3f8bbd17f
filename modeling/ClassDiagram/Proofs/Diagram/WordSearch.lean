import ClassDiagram.Proofs.Diagram.DecoratedTypes

/-!
# Whole words are maximal runs of word characters

The search for a name tries the places of a text from the left and asks for a word edge in front of
the name and behind it. For an identifier the two edges say that the word characters end there: the
name is a run of word characters that cannot be made longer on either side. So the search finds a
name exactly if it is one of these runs of the text, and it finds the first of them. A name that
only begins, ends or overlaps a longer run is passed over.
-/
namespace ClassDiagram
open Text

namespace Text

/-- At an index of a text stands a run of word characters that no word character stands next to. -/
structure IsRunAt (t : Text) (i : Nat) (w : Text) : Prop where
  isIdentifier : IsIdentifier w
  stands : ∃ front back, t = front ++ (w ++ back) ∧ front.length = i ∧
    front.getLast?.any isWord = false ∧ back.head?.any isWord = false

variable {t w : Text} {i : Nat}

/-- A place at which an identifier stands as a whole word is the start of a maximal run. -/
theorem isRunAt_of_wordAt (hw : IsIdentifier w) (h : Pattern.wordAt w t i = true) :
    IsRunAt t i w := by
  obtain ⟨hhead, hlast⟩ := hw.hasWordEnds
  simp only [Pattern.wordAt, Pattern.wordHere, Bool.and_eq_true] at h
  obtain ⟨hfront, hprefix, hback⟩ := h
  obtain ⟨back, hback'⟩ := List.isPrefixOf_iff_prefix.1 hprefix
  have hlength : (t.take i).length = i := by
    have hne : t.drop i ≠ [] := by
      intro hnil
      rw [hnil, List.append_eq_nil_iff] at hback'
      exact hw.1 hback'.1
    have hlt : i < t.length := by
      by_contra hle
      exact hne (List.drop_of_length_le (by omega))
    rw [List.length_take]
    omega
  have hbegins : (t.drop i).head?.any isWord = true := by
    obtain ⟨x, hx, hxword⟩ := (Option.any_eq_true _ _).1 hhead
    rw [← hback', List.head?_append, hx]
    exact hxword
  have hends : (w.reverse ++ (t.take i).reverse).head?.any isWord = true := by
    obtain ⟨x, hx, hxword⟩ := (Option.any_eq_true _ _).1 hlast
    rw [List.head?_append, List.head?_reverse, hx]
    exact hxword
  refine ⟨hw, t.take i, back, ?_, hlength, ?_, ?_⟩
  · rw [hback', List.take_append_drop]
  · rw [isEdge, hbegins, List.head?_reverse] at hfront
    simpa using hfront
  · rw [isEdge, hends, ← hback', List.drop_left] at hback
    simpa using hback

theorem wordAt_iff_isRunAt (hw : IsIdentifier w) : Pattern.wordAt w t i = true ↔ IsRunAt t i w := by
  constructor
  · exact isRunAt_of_wordAt hw
  · rintro ⟨-, front, back, rfl, rfl, hfront, hback⟩
    exact Pattern.wordAt_between hw front back hfront hback

/-- Runs can be told from other pieces of a text. -/
instance (t : Text) (i : Nat) (w : Text) : Decidable (IsRunAt t i w) :=
  if hw : IsIdentifier w then decidable_of_iff _ (wordAt_iff_isRunAt hw)
  else isFalse fun h => hw h.isIdentifier

example : IsRunAt "MonKey<Key>".toList 7 "Key".toList ∧
    ¬ IsRunAt "MonKey<Key>".toList 3 "Key".toList := by decide +kernel

end Text

theorem firstAt_iff_isRunAt {name t : Text} {i : Nat} (hname : IsIdentifier name) :
    FirstAt name t i ↔ IsRunAt t i name ∧ ∀ j, IsRunAt t j name → i ≤ j := by
  simp only [FirstAt, wordAt_iff_isRunAt hname, ← Bool.not_eq_true]
  refine and_congr_right fun _ => ?_
  constructor
  · intro h j hj
    exact Nat.le_of_not_lt fun hlt => h j hlt hj
  · intro h j hlt hj
    exact absurd (h j hj) (Nat.not_le_of_lt hlt)

namespace Resolve

/-- The search for an identifier never fails. It finds something exactly if the identifier is one of
the maximal runs of word characters in the text, and then it finds where the first such run starts.
This is what a written name is compared with a candidate by, and what candidates are ordered by. -/
theorem occurrence_first_run (name t : Text) (hname : IsIdentifier name) :
    ∃ found, occurrence name t = .ok found ∧
      (found.isSome = true ↔ ∃ i, IsRunAt t i name) ∧
      (∀ i, found = some i ↔ IsRunAt t i name ∧ ∀ j, IsRunAt t j name → i ≤ j) ∧
      compare .word t name = .ok found.isSome ∧
      ∀ c : Container, c.name = name → ∀ i, position t c = .ok i ↔ found = some i := by
  have hliteral : ∀ c ∈ name, Pattern.isLiteral c = true :=
    fun c hc => Pattern.isLiteral_of_isWord (hname.2 c hc)
  have hsearch : occurrence name t = .ok (place t name) := occurrence_eq hliteral
  refine ⟨place t name, hsearch, ?_, ?_, ?_, ?_⟩
  · simp only [place_isSome_iff, wordAt_iff_isRunAt hname]
  · intro i
    rw [place_eq_some_iff, firstAt_iff_isRunAt hname]
  · exact compare_eq hliteral
  · rintro c rfl i
    rw [position, hsearch]
    cases place t c.name with
    | none => simp
    | some k => simp

/-- In `MonKey<Keys, Key>` the name `Key` ends one run and begins another before it is one. -/
theorem occurrence_first_run_key :
    occurrence "Key".toList "MonKey<Keys, Key>".toList = .ok (some 13) ∧
      IsRunAt "MonKey<Keys, Key>".toList 13 "Key".toList ∧
      ∀ j, IsRunAt "MonKey<Keys, Key>".toList j "Key".toList → 13 ≤ j := by
  obtain ⟨found, hfound, -, hfirst, -, -⟩ :=
    occurrence_first_run "Key".toList "MonKey<Keys, Key>".toList (by decide)
  have hplace : occurrence "Key".toList "MonKey<Keys, Key>".toList = .ok (some 13) := by
    decide +kernel
  obtain rfl : found = some 13 := Except.ok.inj (hfound.symm.trans hplace)
  exact ⟨hplace, (hfirst 13).1 rfl⟩

end Resolve

end ClassDiagram
