import ClassDiagram.Proofs.Attempt

/-!
# Whole-word search for literal names

Most characters stand for themselves in a pattern; word characters and colons are among them. A name
of such characters is read as itself between two word edges, and the search for it fails in no text:
it gives the first place at which the name stands with a word edge on either side.

The reader is followed sign by sign and the search character by character; `ofName_eq` and
`run_wordItems` say what each of them does to a whole name.
-/
namespace ClassDiagram.Pattern
open Text

/-- The signs that have a meaning of their own in patterns. -/
def signs : List Char := ['\\', '|', '(', ')', '[', '\x7b', '?', '*', '+', '.', '^', '$']

/-- A character that stands for itself in a pattern. -/
def isLiteral (c : Char) : Bool := !signs.contains c

theorem isLiteral_of_isWord {c : Char} (hc : isWord c = true) : isLiteral c = true := by
  have hsigns : signs.all (fun x => !isWord x) = true := by decide
  cases hliteral : isLiteral c with
  | true => rfl
  | false =>
    have hmem : c ∈ signs := by simpa [isLiteral] using hliteral
    simpa [hc] using List.all_eq_true.1 hsigns c hmem

/-- The item for a character that stands for itself. -/
def literalItem (c : Char) : Item := ⟨.char c, .chars false [.code c.toNat]⟩

/-- The item for a word edge. -/
def edgeItem : Item := ⟨.test (.wordEdge false), .test⟩

/-- The items of a literal name as a whole word. -/
def wordItems (name : Text) : List Item := edgeItem :: name.map literalItem ++ [edgeItem]

theorem ofChars_literal (c : Char) : Item.ofChars {} false [.code c.toNat] = literalItem c := by
  have hvalid : c.toNat.isValidChar := c.valid
  simp [Item.ofChars, literalItem, CharSet.single, Flags.letters, Letters.distinguishes, hvalid]

namespace Source
variable {s : Source}

theorem sign_of_ne {c : Char} {rest : Text} (hrest : s.rest = c :: rest) (hc : c ≠ '\\') :
    s.sign = [c] := by
  rw [sign, hrest]
  split <;> simp_all

theorem sign_escape {c : Char} {rest : Text} (hrest : s.rest = '\\' :: c :: rest) :
    s.sign = ['\\', c] := by
  rw [sign, hrest]
  rfl

theorem tail_eq {sign rest : Text} (hsign : s.sign = sign) (hrest : s.rest = sign ++ rest) :
    s.tail = ⟨rest, s.position + sign.length⟩ := by
  simp [tail, drop, hsign, hrest]

end Source

namespace Reader
variable {r : Reader}

/-- A reader behind some characters that stand for themselves. -/
def behind (r : Reader) (name rest : Text) : Reader :=
  { r with
    source := ⟨rest, r.source.position + name.length⟩
    frame := { r.frame with
      entries := (name.map fun c => .item (literalItem c)).reverse ++ r.frame.entries } }

theorem ne_backslash_of_isLiteral {c : Char} (hc : isLiteral c = true) : c ≠ '\\' := by
  rintro rfl
  revert hc
  decide

theorem readChar_literal {c : Char} (hc : isLiteral c = true) (hflags : r.frame.flags = {})
    (s : Source) : r.readChar c s = .ok (r.push s (.char c) (.chars false [.code c.toNat])) := by
  have hchars : r.pushChars s false [.code c.toNat] =
      r.push s (.char c) (.chars false [.code c.toNat]) := by
    rw [pushChars, hflags, ofChars_literal, literalItem]
  unfold readChar
  split
  case h_12 => simp [hflags, hchars]
  all_goals exact absurd hc (by decide +kernel)

theorem step_literal {c : Char} {rest : Text} (hc : isLiteral c = true)
    (hflags : r.frame.flags = {}) (hrest : r.source.rest = c :: rest) : r.step = .ok (r.behind [c] rest) := by
  have hne := ne_backslash_of_isLiteral hc
  have hsign := Source.sign_of_ne hrest hne
  rw [step, hsign]
  dsimp only
  rw [if_neg hne, readChar_literal hc hflags, Source.tail_eq hsign hrest]
  rfl

theorem step_edge {rest : Text} (hflags : r.frame.flags = {})
    (hrest : r.source.rest = '\\' :: 'b' :: rest) :
    r.step = .ok (r.push ⟨rest, r.source.position + 2⟩ (.test (.wordEdge false)) .test) := by
  have hsign := Source.sign_escape hrest
  rw [step, hsign, Source.tail_eq hsign hrest]
  dsimp only
  rw [readEscape, hflags]
  rfl

/-- Reading a literal name adds an item for each of its characters. -/
theorem run_literal (name rest : Text) (fuel : Nat) (hname : ∀ c ∈ name, isLiteral c = true)
    (hflags : r.frame.flags = {}) (hrest : r.source.rest = name ++ rest) :
    r.run (name.length + fuel) = (r.behind name rest).run fuel := by
  induction name generalizing r with
  | nil =>
    rw [List.nil_append] at hrest
    simp [behind, ← hrest]
  | cons c name ih =>
    have hc : isLiteral c = true := hname c (by simp)
    have hsign := Source.sign_of_ne hrest (ne_backslash_of_isLiteral hc)
    rw [List.length_cons, Nat.add_right_comm, run, hsign, if_neg (by simp),
      step_literal hc hflags hrest]
    change run (name.length + fuel) (r.behind [c] (name ++ rest)) = _
    rw [ih (r := r.behind [c] (name ++ rest)) (fun d hd => hname d (by simp [hd])) hflags rfl]
    simp [behind, Nat.add_assoc, Nat.add_comm 1]

theorem run_edge (rest : Text) (fuel : Nat) (hflags : r.frame.flags = {})
    (hrest : r.source.rest = '\\' :: 'b' :: rest) :
    r.run (fuel + 1) =
      (r.push ⟨rest, r.source.position + 2⟩ (.test (.wordEdge false)) .test).run fuel := by
  rw [run, Source.sign_escape hrest, if_neg (by simp), step_edge hflags hrest]
  rfl

theorem run_end (fuel : Nat) (hrest : r.source.rest = []) : r.run fuel = r.finish := by
  cases fuel with
  | zero => rfl
  | succ fuel =>
    have hsign : r.source.sign = [] := by rw [Source.sign, hrest]
    rw [run, if_pos hsign]

end Reader

/-- A literal name is read as its characters between two word edges. -/
theorem ofName_eq {name : Text} (hname : ∀ c ∈ name, isLiteral c = true) :
    ofName name = .ok (Item.sequence (wordItems name)) := by
  have hlength : ("\\b".toList ++ name ++ "\\b".toList).length = name.length + 3 + 1 := by
    simp
  have hitems : (name.map fun c => Entry.item (literalItem c)).flatMap Entry.items =
      name.map literalItem := by
    rw [List.flatMap_map]
    exact List.map_eq_flatMap.symm
  rw [ofName, ofText, hlength, Reader.run_edge (name ++ "\\b".toList) _ rfl (by rfl),
    Reader.run_literal name "\\b".toList 3 hname rfl rfl, Reader.run_edge [] 2 rfl rfl,
    Reader.run_end _ rfl]
  simp [Reader.finish, Reader.behind, Reader.push, Reader.start, Frame.push, Frame.items,
    Frame.sequence, Item.join, wordItems, edgeItem, Entry.items, hitems]

/-- Whether a name stands as a whole word at a place between two pieces of a text, of which the
first is given last character first. -/
def wordHere (name before after : Text) : Bool :=
  isEdge isWord before after
    && (name.isPrefixOf after && isEdge isWord (name.reverse ++ before) (after.drop name.length))

/-- Whether a name stands as a whole word at an index of a text. -/
def wordAt (name t : Text) (i : Nat) : Bool := wordHere name (t.take i).reverse (t.drop i)

theorem word_has_eq : CharClass.word.has false = isWord := by
  funext c
  simp [CharClass.has]

theorem sequence_cons (i : Item) {is : List Item} (h : is ≠ []) :
    Item.sequence (i :: is) = .seq i.pattern (Item.sequence is) := by
  cases is with
  | nil => exact absurd rfl h
  | cons j is => rfl

theorem run_edge (t : Text) (s : Setting) (before after : Text) (index : Nat) (m : Notes)
    (goal : Goal) :
    (Pattern.test (.wordEdge false)).run t s ⟨before, after, index⟩ m goal =
      if isEdge isWord before after then goal ⟨before, after, index⟩ m else .miss m := by
  rw [run, Test.holds, word_has_eq]

/-- Characters in a row and a word edge match what they spell, if a word edge follows it. -/
theorem run_literals (t name : Text) (s : Setting) (before after : Text) (index : Nat) (m : Notes)
    (goal : Goal) :
    (Item.sequence (name.map literalItem ++ [edgeItem])).run t s ⟨before, after, index⟩ m goal =
      if name.isPrefixOf after && isEdge isWord (name.reverse ++ before) (after.drop name.length)
      then goal ⟨name.reverse ++ before, after.drop name.length, index + name.length⟩ m
      else .miss m := by
  induction name generalizing s before after index with
  | nil => simpa [Item.sequence, edgeItem] using run_edge t s before after index m goal
  | cons c name ih =>
    rw [List.map_cons, List.cons_append, sequence_cons _ (by simp), run, literalItem, run, step]
    cases after with
    | nil => simp
    | cons x after =>
      by_cases hx : x = c
      · subst hx
        simp only [decide_true, if_true]
        rw [ih]
        simp [Nat.add_assoc, Nat.add_comm 1]
      · simp [hx, Ne.symm hx]

theorem run_wordItems (t name before after : Text) (index : Nat) :
    (Item.sequence (wordItems name)).run t ⟨false, none⟩ ⟨before, after, index⟩ ⟨[]⟩ .hit =
      if wordHere name before after
      then .hit ⟨name.reverse ++ before, after.drop name.length, index + name.length⟩ ⟨[]⟩
      else .miss ⟨[]⟩ := by
  rw [wordItems, List.cons_append, sequence_cons _ (by simp), run, edgeItem, run_edge]
  by_cases hedge : isEdge isWord before after = true
  · simp only [hedge, if_true, wordHere, Bool.true_and]
    exact run_literals t name _ before after index _ _
  · simp [hedge, wordHere]

/-- The places from an index on are tried in turn. -/
theorem findFrom_wordItems (name before after : Text) :
    (Item.sequence (wordItems name)).findFrom (before.reverse ++ after) before before.length after =
      ((List.range' before.length (after.length + 1)).find?
        (wordAt name (before.reverse ++ after))).map fun i =>
          ⟨before.reverse ++ after, i, i + name.length, ⟨[]⟩⟩ := by
  have hat : wordAt name (before.reverse ++ after) before.length = wordHere name before after := by
    simp [wordAt, List.take_left', List.drop_left']
  rw [List.range'_succ, List.find?_cons, hat, findFrom.eq_def, run_wordItems]
  cases hhere : wordHere name before after with
  | true => simp
  | false =>
    cases after with
    | nil => simp
    | cons x after =>
      have hnext := findFrom_wordItems name (x :: before) after
      simpa using hnext
termination_by after.length

/-- The search for a literal name fails in no text: it gives the first index at which the name
stands as a whole word. -/
theorem occurrence_eq {name : Text} (hname : ∀ c ∈ name, isLiteral c = true) (t : Text) :
    occurrence name t = .ok ((List.range (t.length + 1)).find? (wordAt name t)) := by
  have hfind := findFrom_wordItems name [] t
  simp only [List.reverse_nil, List.nil_append, List.length_nil] at hfind
  rw [occurrence, ofName_eq hname]
  simp only [search, find?, hfind, List.range_eq_range', bind, Except.bind, pure, Except.pure]
  cases (List.range' 0 (t.length + 1)).find? (wordAt name t) with
  | none => rfl
  | some i => simp [Match.isSound]

theorem isPrefix_of_wordHere {name before after : Text} (h : wordHere name before after = true) :
    name <+: after := by
  simp only [wordHere, Bool.and_eq_true] at h
  exact List.isPrefixOf_iff_prefix.1 h.2.1

theorem isInfix_of_wordAt {name t : Text} {i : Nat} (h : wordAt name t i = true) : name <:+: t :=
  (isPrefix_of_wordHere h).isInfix.trans (List.drop_suffix i t).isInfix

/-- An identifier that stands somewhere as a whole word is no part of a longer one there. -/
theorem eq_of_wordHere_of_isPrefix {v w before after : Text} (hv : IsIdentifier v)
    (hw : IsIdentifier w) (hvw : v <+: w) (hv' : wordHere v before after = true)
    (hw' : wordHere w before after = true) : v = w := by
  obtain ⟨x, rfl⟩ := hvw
  cases x with
  | nil => simp
  | cons c x =>
    obtain ⟨rest, rfl⟩ := isPrefix_of_wordHere hw'
    have hc : isWord c = true := hw.2 c (by simp)
    obtain ⟨d, hd, hlast⟩ : ∃ d ∈ v, v.reverse.head? = some d := by
      have hne : v.reverse ≠ [] := by simpa using hv.1
      obtain ⟨d, u, hu⟩ := List.exists_cons_of_ne_nil hne
      exact ⟨d, List.mem_reverse.1 (by simp [hu]), by simp [hu]⟩
    have hd : isWord d = true := hv.2 d hd
    simp [wordHere, isEdge, hlast, hc, hd] at hv'

theorem eq_of_wordAt {v w t : Text} {i : Nat} (hv : IsIdentifier v) (hw : IsIdentifier w)
    (hv' : wordAt v t i = true) (hw' : wordAt w t i = true) : v = w := by
  rcases List.prefix_or_prefix_of_prefix (isPrefix_of_wordHere hv') (isPrefix_of_wordHere hw') with
    h | h
  · exact eq_of_wordHere_of_isPrefix hv hw h hv' hw'
  · exact (eq_of_wordHere_of_isPrefix hw hv h hw' hv').symm

/-- A text of word characters alone has no whole word but itself. -/
theorem eq_of_wordAt_of_forall_isWord {name t : Text} {i : Nat} (ht : ∀ c ∈ t, isWord c = true)
    (hne : name ≠ []) (h : wordAt name t i = true) : name = t := by
  have hhead : ∀ {u : Text}, u ⊆ t → u ≠ [] → u.head?.any isWord = true := by
    intro u hu hne
    cases u with
    | nil => exact absurd rfl hne
    | cons c u => simpa using ht c (hu (by simp))
  -- Between two word characters there is no edge, so nothing stands in front of the name or behind it.
  have hedge : ∀ {before after : Text}, isEdge isWord before after = true →
      before ⊆ t → after ⊆ t → before = [] ∨ after = [] := by
    intro before after hedge hbefore hafter
    by_cases hnil : before = []
    · exact .inl hnil
    · by_cases hnil' : after = []
      · exact .inr hnil'
      · simp [isEdge, hhead hbefore hnil, hhead hafter hnil'] at hedge
  simp only [wordAt, wordHere, Bool.and_eq_true] at h
  obtain ⟨hfront, hprefix, hback⟩ := h
  obtain ⟨rest, hrest⟩ := List.isPrefixOf_iff_prefix.1 hprefix
  have htake : (t.take i).reverse ⊆ t := fun c hc => List.mem_of_mem_take (List.mem_reverse.1 hc)
  have hdrop : t.drop i ⊆ t := fun c hc => List.mem_of_mem_drop hc
  have hname : name.reverse ⊆ t := fun c hc =>
    hdrop (hrest ▸ List.mem_append_left rest (List.mem_reverse.1 hc))
  have hbefore : (t.take i).reverse = [] :=
    (hedge hfront htake hdrop).resolve_right (by simp [← hrest, hne])
  have hafter : (t.drop i).drop name.length = [] := by
    refine (hedge hback (List.append_subset.2 ⟨hname, htake⟩) ?_).resolve_left (by simp [hne])
    exact fun c hc => hdrop (List.mem_of_mem_drop hc)
  rw [← hrest, List.drop_left] at hafter
  rw [List.reverse_eq_nil_iff] at hbefore
  calc name = t.take i ++ t.drop i := by rw [hbefore, ← hrest, hafter, List.append_nil]; rfl
    _ = t := List.take_append_drop i t

end ClassDiagram.Pattern
