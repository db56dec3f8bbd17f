import ClassDiagram.Text.Blank

/-!
# Lines of a text

`splitLines` cuts a text at a dozen characters and takes a carriage return with the line feed behind
it for one end. However a text goes on behind a line feed, it is cut there: `splitLines_append_feed`
says that nothing in front of a line feed grows together with what follows. So lines that are joined
by line feeds are cut into the same lines again, and texts that each end in a line feed are cut one
by one, with an empty line wherever a further line feed stands between two of them.
-/
namespace ClassDiagram.Text

/-- A text without line ends. -/
def IsOneLine (t : Text) : Prop := ∀ c ∈ t, isLineEnd c = false

instance (t : Text) : Decidable (IsOneLine t) :=
  decidable_of_iff (t.all (fun c => !isLineEnd c) = true) (by simp [IsOneLine])

theorem IsOneLine.append {s t : Text} (hs : IsOneLine s) (ht : IsOneLine t) :
    IsOneLine (s ++ t) := by
  intro c hc
  rcases List.mem_append.1 hc with hc | hc
  · exact hs c hc
  · exact ht c hc

/-- A text whose last character is a line feed. -/
def EndsInFeed (t : Text) : Prop := ∃ s, t = s ++ ['\n']

/-- Puts a character in front of the first line. -/
def consFirst (c : Char) : List Text → List Text
  | [] => [[c]]
  | l :: ls => (c :: l) :: ls

theorem consFirst_append (c : Char) {ls : List Text} (h : ls ≠ []) (ms : List Text) :
    consFirst c (ls ++ ms) = consFirst c ls ++ ms := by
  cases ls with
  | nil => exact absurd rfl h
  | cons l ls => rfl

@[simp] theorem splitLines_nil : splitLines [] = [] := by simp [splitLines]

@[simp] theorem splitLines_feed (r : Text) : splitLines ('\n' :: r) = [] :: splitLines r := by
  simp [splitLines, isLineEnd]

@[simp] theorem splitLines_return_feed (r : Text) :
    splitLines ('\r' :: '\n' :: r) = [] :: splitLines r := by
  simp [splitLines]

theorem splitLines_end {c : Char} {r : Text} (hc : isLineEnd c = true)
    (hr : ∀ r', c = '\r' → r = '\n' :: r' → False) : splitLines (c :: r) = [] :: splitLines r := by
  rw [splitLines, if_pos hc]
  exact hr

theorem splitLines_cons {c : Char} (hc : isLineEnd c = false) (r : Text) :
    splitLines (c :: r) = consFirst c (splitLines r) := by
  have hr : ∀ r', c = '\r' → r = '\n' :: r' → False := by
    rintro r' rfl -
    exact absurd hc (by decide)
  rw [splitLines]
  · rw [if_neg (by simp [hc])]
    cases splitLines r <;> rfl
  · exact hr

theorem splitLines_ne_nil {t : Text} (h : t ≠ []) : splitLines t ≠ [] := by
  fun_cases splitLines t with
  | case1 => exact absurd rfl h
  | _ => simp

theorem isOneLine_of_mem_splitLines {t l : Text} (h : l ∈ splitLines t) : IsOneLine l := by
  have hnil : IsOneLine [] := by simp [IsOneLine]
  fun_induction splitLines t generalizing l with
  | case1 => simp at h
  | case2 r ih =>
    rcases List.mem_cons.1 h with rfl | h
    · exact hnil
    · exact ih h
  | case3 c r _ _ ih =>
    rcases List.mem_cons.1 h with rfl | h
    · exact hnil
    · exact ih h
  | case4 c r _ hc _ _ =>
    rw [List.mem_singleton.1 h]
    simpa [IsOneLine] using hc
  | case5 c r _ hc l' ls hr ih =>
    rcases List.mem_cons.1 h with rfl | h
    · have hl' : IsOneLine l' := ih (by simp [hr])
      intro x hx
      rcases List.mem_cons.1 hx with rfl | hx
      · simpa using hc
      · exact hl' x hx
    · exact ih (by simp [hr, h])

/-- Nothing in front of a line feed grows together with what stands behind it. -/
theorem splitLines_append_feed (s r : Text) :
    splitLines (s ++ '\n' :: r) = splitLines (s ++ ['\n']) ++ splitLines r := by
  have hplain : ∀ {c : Char} {s : Text}, isLineEnd c = false →
      splitLines (s ++ '\n' :: r) = splitLines (s ++ ['\n']) ++ splitLines r →
      splitLines (c :: s ++ '\n' :: r) = splitLines (c :: s ++ ['\n']) ++ splitLines r := by
    intro c s hc ih
    rw [List.cons_append, List.cons_append, splitLines_cons hc, splitLines_cons hc, ih,
      consFirst_append c (splitLines_ne_nil (by simp))]
  induction s using splitLines.induct with
  | case1 => simp
  | case2 s ih => simp [ih]
  | case3 c s hcr hc ih =>
    cases s with
    | nil =>
      by_cases hreturn : c = '\r'
      · simp [hreturn]
      · have hfeed : ∀ u r', c = '\r' → u = '\n' :: r' → False := fun _ _ h => absurd h hreturn
        simp [splitLines_end hc (hfeed _)]
    | cons x s =>
      have hfeed : ∀ u r', c = '\r' → x :: u = '\n' :: r' → False := by
        intro u r' hreturn hx
        exact hcr s hreturn (by rw [(List.cons.inj hx).1])
      rw [List.cons_append, List.cons_append] at ih ⊢
      rw [List.cons_append, List.cons_append, splitLines_end hc (hfeed _),
        splitLines_end hc (hfeed _), ih, List.cons_append]
  | case4 c s _ hc _ ih => exact hplain (by simpa using hc) ih
  | case5 c s _ hc _ _ _ ih => exact hplain (by simpa using hc) ih

theorem splitLines_append_of_endsInFeed {s : Text} (h : EndsInFeed s) (r : Text) :
    splitLines (s ++ r) = splitLines s ++ splitLines r := by
  obtain ⟨u, rfl⟩ := h
  rw [List.append_assoc, List.singleton_append, splitLines_append_feed]

theorem splitLines_append_of_isOneLine {l : Text} (h : IsOneLine l) (r : Text) :
    splitLines (l ++ '\n' :: r) = l :: splitLines r := by
  induction l with
  | nil => simp
  | cons c l ih =>
    have hc : isLineEnd c = false := h c (by simp)
    have hl : IsOneLine l := fun x hx => h x (by simp [hx])
    rw [List.cons_append, splitLines_cons hc, ih hl, consFirst]

/-- A line keeps apart from a text that ends in front of it, and from what follows on it. -/
theorem splitLines_around {front line : Text} (hfront : front = [] ∨ EndsInFeed front)
    (hline : IsOneLine line) (back : Text) :
    splitLines (front ++ (line ++ '\n' :: back)) = splitLines front ++ line :: splitLines back := by
  have hrest := splitLines_append_of_isOneLine hline back
  rcases hfront with rfl | hfeed
  · rw [List.nil_append, hrest, splitLines_nil, List.nil_append]
  · rw [splitLines_append_of_endsInFeed hfeed, hrest]

/-- Lines that are joined by line feeds are cut into the same lines again. -/
theorem splitLines_joinWith {ls : List Text} (hne : ls ≠ []) (h : ∀ l ∈ ls, IsOneLine l)
    (r : Text) : splitLines (joinWith ['\n'] ls ++ '\n' :: r) = ls ++ splitLines r := by
  induction ls with
  | nil => exact absurd rfl hne
  | cons l ls ih =>
    have hl : IsOneLine l := h l (by simp)
    cases ls with
    | nil => exact splitLines_append_of_isOneLine hl r
    | cons l' ls =>
      have hrest := ih (by simp) fun x hx => h x (List.mem_cons_of_mem l hx)
      rw [joinWith, List.append_assoc, List.append_assoc, List.singleton_append,
        splitLines_append_of_isOneLine hl, hrest]
      rfl

/-- Texts that end in line feeds are cut one by one, if a line feed stands between any two of them,
and each of these gives an empty line. -/
theorem splitLines_joinWith_of_endsInFeed {ts : List Text} (h : ∀ t ∈ ts, EndsInFeed t) :
    splitLines (joinWith ['\n'] ts) = [[]].intercalate (ts.map splitLines) := by
  induction ts with
  | nil => simp [joinWith]
  | cons t ts ih =>
    cases ts with
    | nil => simp [joinWith]
    | cons t' ts =>
      have ht : EndsInFeed t := h t (by simp)
      have hrest := ih fun x hx => h x (List.mem_cons_of_mem _ hx)
      rw [joinWith, List.append_assoc, List.singleton_append, splitLines_append_of_endsInFeed ht,
        splitLines_feed, hrest]
      simp [List.intercalate]

/-- A text without carriage returns has line feeds for line ends already. -/
theorem normalizeLineFeeds_eq_self {t : Text} (h : '\r' ∉ t) : t.normalizeLineFeeds = t := by
  fun_induction normalizeLineFeeds t with
  | case1 => rfl
  | case2 r ih => simp at h
  | case3 c r hc ih =>
    rw [List.mem_cons, not_or] at h
    rw [ih h.2, if_neg (Ne.symm h.1)]

end ClassDiagram.Text
