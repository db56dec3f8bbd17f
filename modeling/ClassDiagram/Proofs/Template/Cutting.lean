import ClassDiagram.Template.Token
import Mathlib.Data.List.Infix

/-!
# Cutting template texts

A template text is cut into tokens from the left. What becomes of literal text, of the start and the
end of a tag and of the words in it is said for any text behind it (`Cuts`). No steps have to be
counted for that, since every one of them takes at least a character.
-/
namespace ClassDiagram.Template
open Text

/-- A text that a template shows as it is: no tag, place or comment starts in it, no brace at its end
could make a start together with a tag behind it, and its line ends are line feeds. -/
structure IsLiteral (t : Text) : Prop where
  noTag : ¬['\x7b', '%'] <:+: t
  noPlace : ¬['\x7b', '\x7b'] <:+: t
  noComment : ¬['\x7b', '#'] <:+: t
  noBrace : t.getLast? ≠ some '\x7b'
  noReturn : '\r' ∉ t

instance (t : Text) : Decidable (IsLiteral t) :=
  decidable_of_iff (¬['\x7b', '%'] <:+: t ∧ ¬['\x7b', '\x7b'] <:+: t ∧ ¬['\x7b', '#'] <:+: t ∧
      t.getLast? ≠ some '\x7b' ∧ '\r' ∉ t)
    ⟨fun ⟨tag, place, comment, brace, ret⟩ => ⟨tag, place, comment, brace, ret⟩,
      fun h => ⟨h.noTag, h.noPlace, h.noComment, h.noBrace, h.noReturn⟩⟩

theorem IsLiteral.tail {c d : Char} {t : Text} (h : IsLiteral (c :: d :: t)) :
    IsLiteral (d :: t) where
  noTag hinfix := h.noTag (List.infix_cons hinfix)
  noPlace hinfix := h.noPlace (List.infix_cons hinfix)
  noComment hinfix := h.noComment (List.infix_cons hinfix)
  noBrace := by
    have hlast := h.noBrace
    rwa [List.getLast?_cons_cons] at hlast
  noReturn hmem := h.noReturn (List.mem_cons_of_mem c hmem)

/-- A literal text reaches up to the next opening. -/
theorem untilOpening_append {t rest : Text} (h : IsLiteral t)
    (hrest : untilOpening rest = ([], rest)) : untilOpening (t ++ rest) = (t, rest) := by
  induction t with
  | nil => exact hrest
  | cons c t ih =>
    cases t with
    | nil =>
      have hc : c ≠ '\x7b' := by simpa using h.noBrace
      cases rest with
      | nil => rfl
      | cons d rest =>
        rw [List.singleton_append, untilOpening, hrest]
        simp [hc]
    | cons d t =>
      have hpair : ¬(decide (c = '\x7b') && (decide (d = '%') || decide (d = '\x7b')
          || decide (d = '#'))) = true := by
        intro hopening
        simp only [Bool.and_eq_true, Bool.or_eq_true, decide_eq_true_eq] at hopening
        obtain ⟨rfl, (rfl | rfl) | rfl⟩ := hopening
        · exact h.noTag ⟨[], t, rfl⟩
        · exact h.noPlace ⟨[], t, rfl⟩
        · exact h.noComment ⟨[], t, rfl⟩
      rw [List.cons_append, List.cons_append, untilOpening, if_neg hpair, ← List.cons_append,
        ih h.tail]

/-- A text in a mode is cut into tokens, whatever whole it stands in, if more steps are allowed than
it has characters. -/
def Cuts (mode : Mode) (t : Text) (ts : List Token) : Prop :=
  ∀ size fuel, t.length < fuel → tokensFrom size fuel mode t = ts

/-- A text as texts of a template: an empty one is none. -/
def textsOf (t : Text) : List Text := if t = [] then [] else [t]

theorem map_data_textsOf (t : Text) :
    (textsOf t).map Token.data = if t = [] then [] else [.data t] := by
  unfold textsOf
  split <;> rfl

theorem tokens_eq_of_cuts {t : Text} {ts : List Token} (h : Cuts .literal t ts) : tokens t = ts := by
  apply h
  omega

namespace Cuts
variable {r : Text} {ts : List Token} {behindDot : Bool}

theorem of_succ {mode : Mode} {t : Text}
    (h : ∀ size fuel, t.length ≤ fuel → tokensFrom size (fuel + 1) mode t = ts) : Cuts mode t ts := by
  intro size fuel hfuel
  obtain ⟨k, rfl⟩ : ∃ k, fuel = k + 1 := ⟨fuel - 1, by omega⟩
  exact h size k (by omega)

theorem literal_end {t : Text} (h : IsLiteral t) : Cuts .literal t ((textsOf t).map .data) := by
  apply of_succ
  intro size fuel _
  have huntil : untilOpening t = (t, []) := by
    have happend := untilOpening_append h (show untilOpening [] = ([], []) from rfl)
    rwa [List.append_nil] at happend
  unfold tokensFrom
  rw [huntil, map_data_textsOf]
  simp

theorem literal_tag {t inner : Text} (h : IsLiteral t)
    (hraw : afterWord? "raw" (' ' :: inner) = none)
    (hinside : Cuts (.inside true [] false) (' ' :: inner) ts) :
    Cuts .literal (t ++ '\x7b' :: '%' :: ' ' :: inner)
      ((textsOf t).map .data ++ .tagStart :: ts) := by
  apply of_succ
  intro size fuel hfuel
  rw [List.length_append, List.length_cons, List.length_cons] at hfuel
  have huntil := untilOpening_append h
    (show untilOpening ('\x7b' :: '%' :: ' ' :: inner) = ([], _) from rfl)
  have hrest := hinside size fuel (by omega)
  have hstrips : ¬some ' ' = some '-' := by decide
  have hkeeps : ¬some ' ' = some '+' := by decide
  unfold tokensFrom
  rw [huntil, map_data_textsOf]
  simp only [List.drop_succ_cons, List.drop_zero, List.head?_cons, hstrips, hkeeps, if_false,
    decide_false, Bool.or_self, Bool.false_eq_true, hraw, hrest]

theorem blank (h : Cuts (.inside true [] false) r ts) :
    Cuts (.inside true [] behindDot) (' ' :: r) ts := by
  apply of_succ
  intro size fuel hfuel
  rw [List.length_cons] at hfuel
  have htoken : ∀ position, insideToken position [] behindDot ' ' r = (none, 1) := fun _ => rfl
  unfold tokensFrom
  simp only [htoken]
  exact h size fuel (by omega)

/-- A token in a tag that opens no bracket and is no dot. -/
theorem token {c : Char} {w : Text} {token : Token}
    (hend : afterEnd? true (c :: (w ++ r)) = none)
    (htoken : ∀ position,
      insideToken position [] behindDot c (w ++ r) = (some token, (c :: w).length))
    (hplain : (∃ t, token = .name t) ∨ ∃ t, token = .string t)
    (h : Cuts (.inside true [] false) r ts) :
    Cuts (.inside true [] behindDot) (c :: (w ++ r)) (token :: ts) := by
  apply of_succ
  intro size fuel hfuel
  rw [List.length_cons, List.length_append] at hfuel
  have hdrop : (c :: (w ++ r)).drop (c :: w).length = r := by
    rw [← List.cons_append, List.drop_left]
  have hrest := h size fuel (by omega)
  unfold tokensFrom
  simp only [if_true, hend, htoken, hdrop]
  rcases hplain with ⟨t, rfl⟩ | ⟨t, rfl⟩
  · exact congrArg (Token.name t :: ·) hrest
  · exact congrArg (Token.string t :: ·) hrest

theorem tag_end (h : Cuts .literal r ts) :
    Cuts (.inside true [] behindDot) ('%' :: '\x7d' :: r) (.tagEnd :: ts) := by
  apply of_succ
  intro size fuel hfuel
  rw [List.length_cons, List.length_cons] at hfuel
  unfold tokensFrom
  exact congrArg (Token.tagEnd :: ·) (h size fuel (by omega))

end Cuts

/-- Whether a text is cut out of a tag as a name, because no number or end of a tag starts like it.
-/
def isTagWord : Text → Bool
  | [] => false
  | c :: w => !isBlank c && !isDecimal c && !c.isDigit && !(['_', '%', '+', '-'].contains c)
      && (c :: w).all isNameLike && nameToken (c :: w) = .name (c :: w)

theorem floatLength_eq_zero {c : Char} {t : Text} (hunder : c ≠ '_') (hc : isDecimal c = false) :
    floatLength (c :: t) = 0 := by
  have hrow : rowLength isDecimal false (c :: t) = 0 := by
    unfold rowLength
    split
    · rename_i heq
      exact absurd (List.cons.inj heq).1 hunder
    · rename_i heq
      obtain ⟨rfl, -⟩ := List.cons.inj heq
      simp [hc]
    · rfl
  unfold floatLength
  rw [hrow]
  rfl

theorem integerLength_eq_zero {c : Char} {t : Text} (hc : c.isDigit = false) :
    integerLength (c :: t) = (0, 10) := by
  have hzero : c ≠ '0' := by
    rintro rfl
    simp at hc
  unfold integerLength
  split
  · rename_i heq
    exact absurd (List.cons.inj heq).1 hzero
  · rename_i heq
    obtain ⟨rfl, -⟩ := List.cons.inj heq
    simp [hzero, hc]
  · rfl

theorem afterEnd?_eq_none {c : Char} {t : Text} (hpercent : c ≠ '%') (hplus : c ≠ '+')
    (hminus : c ≠ '-') : afterEnd? true (c :: t) = none := by
  unfold afterEnd?
  split <;> simp_all

/-- A text in quotes that has no quotes or backslashes itself. -/
theorem quotedText?_append {quote : Char} {t : Text} (hquote : quote ∉ t) (hslash : '\\' ∉ t)
    (hq : quote ≠ '\\') (r : Text) : quotedText? quote (t ++ quote :: r) = some (t, r) := by
  induction t with
  | nil =>
    rw [List.nil_append, quotedText?, if_pos rfl]
    exact fun d v heq _ => hq heq
  | cons c t ih =>
    rw [List.mem_cons, not_or] at hquote hslash
    rw [List.cons_append, quotedText?, if_neg (Ne.symm hquote.1), ih hquote.2 hslash.2]
    · rfl
    · exact fun d v heq _ => hslash.1 heq.symm

namespace Cuts
variable {r : Text} {ts : List Token} {behindDot : Bool}

theorem word {w : Text} (hw : isTagWord w = true)
    (h : Cuts (.inside true [] false) (' ' :: r) ts) :
    Cuts (.inside true [] behindDot) (w ++ ' ' :: r) (.name w :: ts) := by
  cases w with
  | nil => simp [isTagWord] at hw
  | cons c w =>
    simp only [isTagWord, Bool.and_eq_true, Bool.not_eq_true', List.contains_cons,
      List.contains_nil, Bool.or_false, Bool.or_eq_false_iff, beq_eq_false_iff_ne, decide_eq_true_eq] at hw
    obtain ⟨⟨⟨⟨⟨hblank, hdecimal⟩, hdigit⟩, hunder, hpercent, hplus, hminus⟩, hall⟩, hname⟩ := hw
    rw [List.cons_append]
    refine token ?_ (fun position => ?_) (.inl ⟨c :: w, rfl⟩) h
    · exact afterEnd?_eq_none hpercent hplus hminus
    · have htake : (c :: (w ++ ' ' :: r)).takeWhile isNameLike = c :: w := by
        rw [← List.cons_append, List.takeWhile_append_of_pos (List.all_eq_true.1 hall),
          List.takeWhile_cons_of_neg (by decide +kernel), List.append_nil]
      have hlike : isNameLike c = true := by
        rw [List.all_cons, Bool.and_eq_true] at hall
        exact hall.1
      simp only [insideToken, floatLength_eq_zero hunder hdecimal, integerLength_eq_zero hdigit,
        hblank, ite_self, Nat.not_lt_zero, ne_eq, not_true_eq_false, if_false, Bool.false_eq_true,
        hlike, if_true, htake, hname]

/-- A literal text up to a tag that starts with a word. -/
theorem literal_tag_word {t w : Text} (h : IsLiteral t) (hw : isTagWord w = true)
    (hne : w.head? ≠ some 'r') (hinside : Cuts (.inside true [] false) (' ' :: r) ts) :
    Cuts .literal (t ++ '\x7b' :: '%' :: ' ' :: (w ++ ' ' :: r))
      ((textsOf t).map .data ++ .tagStart :: .name w :: ts) := by
  refine literal_tag h ?_ (blank (word hw hinside))
  cases w with
  | nil => simp [isTagWord] at hw
  | cons c w =>
    have hblank : isBlank c = false := by
      simp only [isTagWord, Bool.and_eq_true, Bool.not_eq_true'] at hw
      exact hw.1.1.1.1.1
    have hdrop : (' ' :: (c :: w ++ ' ' :: r)).dropWhile isBlank = c :: (w ++ ' ' :: r) := by
      rw [List.dropWhile_cons_of_pos (by decide), List.cons_append,
        List.dropWhile_cons_of_neg (by simp [hblank])]
    have hraw : "raw".toList.isPrefixOf (c :: (w ++ ' ' :: r)) = false := by
      have hc : ('r' == c) = false := by
        rw [beq_eq_false_iff_ne]
        rintro rfl
        exact hne rfl
      change ('r' == c && _) = false
      rw [hc, Bool.false_and]
    rw [afterWord?, hdrop]
    simp only [hraw, Bool.false_eq_true, if_false]

theorem tag_end_blank (h : Cuts .literal r ts) :
    Cuts (.inside true [] behindDot) (' ' :: '%' :: '\x7d' :: r) (.tagEnd :: ts) := blank (tag_end h)

/-- A text in quotes that stands for itself. -/
theorem quoted {t : Text} (htoken : stringToken t = .string t) (hquote : '\x27' ∉ t)
    (hslash : '\\' ∉ t) (h : Cuts (.inside true [] false) r ts) :
    Cuts (.inside true [] behindDot) ('\x27' :: (t ++ '\x27' :: r)) (.string t :: ts) := by
  have happend : t ++ '\x27' :: r = (t ++ ['\x27']) ++ r := by simp
  have hquoted : quotedText? '\x27' ((t ++ ['\x27']) ++ r) = some (t, r) := by
    rw [← happend]
    exact quotedText?_append hquote hslash (by decide) r
  have hfloat : ∀ u, floatLength ('\x27' :: u) = 0 := fun u =>
    floatLength_eq_zero (by decide) (by decide +kernel)
  have hinteger : ∀ u, integerLength ('\x27' :: u) = (0, 10) := fun u =>
    integerLength_eq_zero (by decide)
  have hblank : isBlank '\x27' = false := by decide
  have hlike : isNameLike '\x27' = false := by decide +kernel
  rw [happend]
  refine token rfl (fun position => ?_) (.inr ⟨t, rfl⟩) h
  simp only [insideToken, hfloat, hinteger, hblank, ite_self, Nat.not_lt_zero, ne_eq,
    not_true_eq_false, if_false, Bool.false_eq_true, hlike, hquoted, htoken, decide_true,
    Bool.true_or, if_true, List.length_cons, List.length_append, List.length_nil]

end Cuts

end ClassDiagram.Template
