import ClassDiagram.Proofs.Namespace.Cleaning

/-!
# The scans that take arguments away

Cleaning goes over a namespace twice: `dropLastArguments` takes the last argument of each line away,
and `unwrapArguments` takes the brackets of the others away. Neither scan knows which brackets
belong together. An argument ends for them at the next closing bracket, so the first scan may leave
closing brackets without their opening ones, but never the other way round: up to any closing
bracket of a text it takes at least as many opening as closing brackets (`exists_release`). The
second scan takes one of each at a time, so brackets that were left without a partner stay
(`count_close_le_of_isAngleFree`). At last the colons at the end go, however many there are.
-/
namespace ClassDiagram.Namespace
open Text

/-- A text without angle brackets. -/
def IsAngleFree (t : Text) : Prop := '<' ∉ t ∧ '>' ∉ t

instance (t : Text) : Decidable (IsAngleFree t) := inferInstanceAs (Decidable (_ ∧ _))

/-- An argument that is not empty and in which no brackets are nested. -/
def IsPlain (a : Text) : Prop := a ≠ [] ∧ IsAngleFree a

/-- The characters of a text that are no angle brackets. -/
def withoutAngles (t : Text) : Text := t.filter fun c => c ≠ '<' && c ≠ '>'

/-- Angle brackets are closed in a text in the order in which they were opened. -/
inductive BalancedAngles : Text → Prop where
  | nil : BalancedAngles []
  | char {c : Char} {r : Text} (hopen : c ≠ '<') (hclose : c ≠ '>') (hr : BalancedAngles r) :
    BalancedAngles (c :: r)
  | block {inner r : Text} (hinner : BalancedAngles inner) (hr : BalancedAngles r) :
    BalancedAngles ('<' :: (inner ++ '>' :: r))

section
variable {c : Char} {s t : Text}

theorem isAngleFree_nil : IsAngleFree [] := by decide

theorem isAngleFree_cons_iff : IsAngleFree (c :: t) ↔ (c ≠ '<' ∧ c ≠ '>') ∧ IsAngleFree t := by
  simp only [IsAngleFree, List.mem_cons, not_or, eq_comm, ne_eq]
  exact and_and_and_comm

theorem isAngleFree_append_iff : IsAngleFree (s ++ t) ↔ IsAngleFree s ∧ IsAngleFree t := by
  simp only [IsAngleFree, List.mem_append, not_or]
  exact and_and_and_comm

theorem withoutAngles_append : withoutAngles (s ++ t) = withoutAngles s ++ withoutAngles t :=
  List.filter_append ..

theorem withoutAngles_eq_self (h : IsAngleFree t) : withoutAngles t = t := by
  refine List.filter_eq_self.2 fun c hc => ?_
  have hopen : c ≠ '<' := fun heq => h.1 (heq ▸ hc)
  have hclose : c ≠ '>' := fun heq => h.2 (heq ▸ hc)
  simp [hopen, hclose]

theorem BalancedAngles.count_eq (h : BalancedAngles t) : t.count '<' = t.count '>' := by
  induction h with
  | nil => rfl
  | char hopen hclose _ ih => rw [List.count_cons_of_ne hopen, List.count_cons_of_ne hclose, ih]
  | block _ _ ihinner ihr =>
    simp only [List.count_cons, List.count_append, ihinner, ihr]
    simp
    omega

/-- A balanced text with brackets goes on behind its first closing bracket with no more opening
than closing ones. -/
theorem BalancedAngles.exists_close (h : BalancedAngles t) (hangle : ¬ IsAngleFree t) :
    ∃ p q, t = p ++ '>' :: q ∧ '>' ∉ p ∧ q.count '<' ≤ q.count '>' := by
  induction h with
  | nil => exact absurd isAngleFree_nil hangle
  | @char c r hopen hclose _ ih =>
    obtain ⟨p, q, rfl, hp, hq⟩ := ih fun hr => hangle (isAngleFree_cons_iff.2 ⟨⟨hopen, hclose⟩, hr⟩)
    refine ⟨c :: p, q, rfl, ?_, hq⟩
    rw [List.mem_cons, not_or]
    exact ⟨hclose.symm, hp⟩
  | @block inner r hinner hr ihinner _ =>
    by_cases hfree : IsAngleFree inner
    · refine ⟨'<' :: inner, r, rfl, ?_, Nat.le_of_eq hr.count_eq⟩
      rw [List.mem_cons, not_or]
      exact ⟨by decide, hfree.2⟩
    · obtain ⟨p, q, rfl, hp, hq⟩ := ihinner hfree
      refine ⟨'<' :: p, q ++ '>' :: r, by simp, ?_, ?_⟩
      · rw [List.mem_cons, not_or]
        exact ⟨by decide, hp⟩
      · have hcount := hr.count_eq
        rw [List.count_append, List.count_append, List.count_cons_self,
          List.count_cons_of_ne (by decide)]
        omega

end

section
variable {w z : Text}

theorem opensArgument_append_close (hne : w ≠ []) (hw : '>' ∉ w) (z : Text) :
    opensArgument (w ++ '>' :: z) = true := opensArgument_iff.2 ⟨w, z, rfl, hne, hw⟩

theorem ne_nil_of_opensArgument (h : opensArgument (w ++ '>' :: z) = true) : w ≠ [] := by
  rintro rfl
  simp [opensArgument] at h

theorem opensLater_open (r : Text) :
    opensLater ('<' :: r) = (opensArgument r || opensLater r) := by
  simp [opensLater]

/-- Behind a text without opening brackets a line goes on as if it were not there. -/
theorem opensLater_append (hw : '<' ∉ w) (hfeed : '\n' ∉ w) (z : Text) :
    opensLater (w ++ z) = opensLater z := by
  induction w with
  | nil => rfl
  | cons c w ih =>
    rw [List.mem_cons, not_or] at hw hfeed
    rw [List.cons_append, opensLater, ih hw.2 hfeed.2]
    simp [Ne.symm hw.1, Ne.symm hfeed.1]

theorem opensLater_of_feed (hw : '<' ∉ w) (hfeed : '\n' ∈ w) (z : Text) :
    opensLater (w ++ z) = false := by
  induction w with
  | nil => simp at hfeed
  | cons c w ih =>
    rw [List.mem_cons, not_or] at hw
    rw [List.cons_append, opensLater]
    rcases List.mem_cons.1 hfeed with rfl | hfeed
    · simp
    · simp [ih hw.2 hfeed, Ne.symm hw.1]

/-- Behind an argument without opening brackets the line goes on, unless it ends in the argument. -/
theorem opensLater_argument (hw : '<' ∉ w) (z : Text) :
    opensLater (w ++ '>' :: z) = false ↔ '\n' ∈ w ∨ opensLater z = false := by
  by_cases hfeed : '\n' ∈ w
  · simp [opensLater_of_feed hw hfeed, hfeed]
  · rw [opensLater_append hw hfeed, ← List.singleton_append,
      opensLater_append (by decide) (by decide), or_iff_right hfeed]

theorem opensLater_of_notMem (hw : '<' ∉ w) : opensLater w = false := by
  by_cases hfeed : '\n' ∈ w
  · have h := opensLater_of_feed hw hfeed []
    rwa [List.append_nil] at h
  · have h := opensLater_append hw hfeed []
    rwa [List.append_nil] at h

end

section
variable {scan : Scan} {w z : Text}

theorem dropLastArguments_cons {c : Char} {r : Text} (hscan : scan ≠ .inArgument)
    (hopen : c ≠ '<') :
    dropLastArguments scan (c :: r) =
      c :: dropLastArguments (if c = '\n' then .fresh else .behindText) r := by
  cases scan with
  | fresh => simp [dropLastArguments]
  | behindText => simp [dropLastArguments, hopen]
  | inArgument => exact absurd rfl hscan

/-- Text without opening brackets stays, and what follows stands behind it. -/
theorem dropLastArguments_append (hw : '<' ∉ w) (hfeed : '\n' ∉ w) (z : Text) :
    dropLastArguments .behindText (w ++ z) = w ++ dropLastArguments .behindText z := by
  induction w with
  | nil => rfl
  | cons c w ih =>
    rw [List.mem_cons, not_or] at hw hfeed
    rw [List.cons_append, dropLastArguments_cons (by simp) (Ne.symm hw.1), if_neg (Ne.symm hfeed.1),
      ih hw.2 hfeed.2, List.cons_append]

theorem dropLastArguments_of_notMem (hscan : scan ≠ .inArgument) (hw : '<' ∉ w) :
    dropLastArguments scan w = w := by
  refine dropLastArguments_eq_self hscan ?_
  rintro ⟨front, argument, back, rfl, -, -⟩
  exact hw (by simp)

/-- Only an opening bracket is treated in another way at the start of a stretch. -/
theorem dropLastArguments_fresh (hz : z.head? ≠ some '<') :
    dropLastArguments .fresh z = dropLastArguments .behindText z := by
  cases z with
  | nil => rfl
  | cons c r =>
    have hc : c ≠ '<' := by simpa using hz
    simp [dropLastArguments, hc]

theorem dropLastArguments_open (r : Text) :
    dropLastArguments .behindText ('<' :: r) =
      if opensArgument r && !opensLater r then dropLastArguments .inArgument r
      else '<' :: dropLastArguments .behindText r := by
  simp [dropLastArguments]

theorem dropLastArguments_close (hw : '>' ∉ w) (z : Text) :
    dropLastArguments .inArgument (w ++ '>' :: z) = dropLastArguments .fresh z := by
  induction w with
  | nil => simp [dropLastArguments]
  | cons c w ih =>
    rw [List.mem_cons, not_or] at hw
    rw [List.cons_append, dropLastArguments, if_neg (Ne.symm hw.1), ih hw.2]

/-- A plain argument is taken away if no other one is opened behind it on the same line. -/
theorem dropLastArguments_plain {a : Text} (ha : IsPlain a)
    (hlast : '\n' ∈ a ∨ opensLater z = false) :
    dropLastArguments .behindText ('<' :: (a ++ '>' :: z)) = dropLastArguments .fresh z := by
  obtain ⟨hne, hopen, hclose⟩ := ha
  rw [dropLastArguments_open, opensArgument_append_close hne hclose,
    (opensLater_argument hopen z).2 hlast, Bool.not_false, Bool.and_self, if_pos rfl,
    dropLastArguments_close hclose]

/-- How many opening brackets the scan has taken away without their closing ones. -/
def Scan.pending : Scan → Nat
  | .inArgument => 1
  | _ => 0

/-- A closing bracket ends every argument that was opened before it. Up to there at least as many
opening as closing brackets are taken away. -/
theorem exists_release (scan : Scan) (w z : Text) :
    ∃ v next, next ≠ Scan.inArgument ∧
      dropLastArguments scan (w ++ '>' :: z) = v ++ dropLastArguments next z ∧
      v.count '<' + w.count '>' + 1 ≤ w.count '<' + v.count '>' + scan.pending := by
  induction w generalizing scan with
  | nil =>
    cases scan with
    | inArgument => exact ⟨[], .fresh, by simp, by simp [dropLastArguments], by simp [Scan.pending]⟩
    | fresh => exact ⟨['>'], .behindText, by simp, by simp [dropLastArguments], by simp⟩
    | behindText => exact ⟨['>'], .behindText, by simp, by simp [dropLastArguments], by simp⟩
  | cons c w ih =>
    have hkept : ∀ {scan' : Scan}, scan'.pending = 0 → ∃ v next, next ≠ Scan.inArgument ∧
        c :: dropLastArguments scan' (w ++ '>' :: z) = v ++ dropLastArguments next z ∧
        v.count '<' + (c :: w).count '>' + 1 ≤ (c :: w).count '<' + v.count '>' := by
      intro scan' hpending
      obtain ⟨v, next, hnext, hdrop, hcount⟩ := ih scan'
      refine ⟨c :: v, next, hnext, by rw [hdrop, List.cons_append], ?_⟩
      simp only [List.count_cons]
      omega
    have hfeed : (if c = '\n' then Scan.fresh else Scan.behindText).pending = 0 := by
      split <;> rfl
    cases scan with
    | fresh =>
      rw [List.cons_append, dropLastArguments]
      exact hkept hfeed
    | behindText =>
      rw [List.cons_append, dropLastArguments]
      split
      · rename_i hopen
        obtain rfl : c = '<' := by
          rw [Bool.and_eq_true, Bool.and_eq_true, decide_eq_true_eq] at hopen
          exact hopen.1.1
        obtain ⟨v, next, hnext, hdrop, hcount⟩ := ih .inArgument
        refine ⟨v, next, hnext, hdrop, ?_⟩
        rw [List.count_cons_self, List.count_cons_of_ne (by decide)]
        simp only [Scan.pending] at hcount ⊢
        omega
      · exact hkept hfeed
    | inArgument =>
      rw [List.cons_append, dropLastArguments]
      split
      · rename_i hclose
        subst hclose
        obtain ⟨v, next, hnext, hdrop, hcount⟩ := ih .fresh
        refine ⟨v, next, hnext, hdrop, ?_⟩
        rw [List.count_cons_self, List.count_cons_of_ne (by decide)]
        simp only [Scan.pending] at hcount ⊢
        omega
      · rename_i hclose
        obtain ⟨v, next, hnext, hdrop, hcount⟩ := ih .inArgument
        refine ⟨v, next, hnext, hdrop, ?_⟩
        rw [List.count_cons_of_ne hclose, List.count_cons]
        omega

/-- An argument with brackets in it leaves a closing bracket without its opening one. -/
theorem exists_release_of_nested {a : Text} (ha : BalancedAngles a) (hangle : ¬ IsAngleFree a)
    (m z : Text) :
    ∃ v next, next ≠ Scan.inArgument ∧
      dropLastArguments .inArgument (a ++ (m ++ '>' :: z)) = v ++ dropLastArguments next z ∧
      v.count '<' + m.count '>' + 1 ≤ m.count '<' + v.count '>' := by
  obtain ⟨p, q, rfl, hp, hq⟩ := ha.exists_close hangle
  obtain ⟨v, next, hnext, hdrop, hcount⟩ := exists_release .fresh (q ++ m) z
  refine ⟨v, next, hnext, ?_, ?_⟩
  · rw [← hdrop, List.append_assoc, List.cons_append, dropLastArguments_close hp,
      List.append_assoc]
  · simp only [List.count_append, Scan.pending] at hcount
    omega

end

section
variable {w z t : Text}

theorem unwrapArguments_append (hw : '<' ∉ w) (z : Text) :
    unwrapArguments false (w ++ z) = w ++ unwrapArguments false z := by
  induction w with
  | nil => rfl
  | cons c w ih =>
    rw [List.mem_cons, not_or] at hw
    rw [List.cons_append, unwrapArguments]
    simp [Ne.symm hw.1, ih hw.2]

theorem unwrapArguments_open (r : Text) :
    unwrapArguments false ('<' :: r) =
      if opensArgument r then unwrapArguments true r else '<' :: unwrapArguments false r := by
  simp [unwrapArguments]

theorem unwrapArguments_close (hw : '>' ∉ w) (z : Text) :
    unwrapArguments true (w ++ '>' :: z) = w ++ unwrapArguments false z := by
  induction w with
  | nil => simp [unwrapArguments]
  | cons c w ih =>
    rw [List.mem_cons, not_or] at hw
    rw [List.cons_append, unwrapArguments]
    simp [Ne.symm hw.1, ih hw.2]

theorem unwrapArguments_inside {c : Char} (hclose : c ≠ '>') (r : Text) :
    unwrapArguments true (c :: r) = c :: unwrapArguments true r := by
  rw [unwrapArguments, if_pos rfl, if_neg hclose]

theorem withoutAngles_unwrapArguments (inside : Bool) (t : Text) :
    withoutAngles (unwrapArguments inside t) = withoutAngles t := by
  fun_induction unwrapArguments inside t with
  | case1 => rfl
  | case2 r ih => simpa [withoutAngles] using ih
  | case3 c r _ ih =>
    simp only [withoutAngles, List.filter_cons] at ih ⊢
    rw [ih]
  | case4 inside c r _ hopen ih =>
    obtain rfl : c = '<' := by
      rw [Bool.and_eq_true, decide_eq_true_eq] at hopen
      exact hopen.1
    simpa [withoutAngles] using ih
  | case5 inside c r _ _ ih =>
    simp only [withoutAngles, List.filter_cons] at ih ⊢
    rw [ih]

/-- If no bracket is left, then none was closed before it was opened. -/
theorem count_close_le_of_isAngleFree {inside : Bool} (h : IsAngleFree (unwrapArguments inside t))
    {v : Text} (hv : v <+: t) : v.count '>' ≤ v.count '<' + inside.toNat := by
  induction t generalizing inside v with
  | nil => simp [List.prefix_nil.1 hv]
  | cons c r ih =>
    rcases List.prefix_cons_iff.1 hv with rfl | ⟨v', rfl, hv'⟩
    · simp
    have hkept : IsAngleFree (c :: unwrapArguments inside r) →
        (c :: v').count '>' ≤ (c :: v').count '<' + inside.toNat := by
      intro hfree
      obtain ⟨⟨hopen, hclose⟩, hrest⟩ := isAngleFree_cons_iff.1 hfree
      rw [List.count_cons_of_ne hopen, List.count_cons_of_ne hclose]
      exact ih hrest hv'
    rw [unwrapArguments] at h
    cases inside with
    | true =>
      rw [if_pos rfl] at h
      split at h
      · rename_i hclose
        have hrest := ih h hv'
        rw [hclose, List.count_cons_self, List.count_cons_of_ne (by decide)]
        simp only [Bool.toNat_false, Bool.toNat_true] at hrest ⊢
        omega
      · exact hkept h
    | false =>
      rw [if_neg Bool.false_ne_true] at h
      split at h
      · rename_i hopen
        obtain rfl : c = '<' := by
          rw [Bool.and_eq_true, decide_eq_true_eq] at hopen
          exact hopen.1
        have hrest := ih h hv'
        rw [List.count_cons_self, List.count_cons_of_ne (by decide)]
        simp only [Bool.toNat_false, Bool.toNat_true] at hrest ⊢
        omega
      · exact hkept h

/-- If no bracket is left, then an opening bracket stands in front of an argument without
brackets. -/
theorem exists_argument_of_isAngleFree (h : IsAngleFree (unwrapArguments false ('<' :: t))) :
    ∃ x r, t = x ++ '>' :: r ∧ x ≠ [] ∧ IsAngleFree x := by
  rw [unwrapArguments_open] at h
  cases hopen : opensArgument t with
  | false =>
    rw [hopen, if_neg Bool.false_ne_true] at h
    exact absurd rfl (isAngleFree_cons_iff.1 h).1.1
  | true =>
    rw [hopen, if_pos rfl] at h
    obtain ⟨x, r, rfl, hne, hx⟩ := opensArgument_iff.1 hopen
    rw [unwrapArguments_close hx, isAngleFree_append_iff] at h
    exact ⟨x, r, rfl, hne, h.1⟩

/-- If no bracket is left, then an argument that the first scan takes away up to a closing bracket
has none in it, provided that as many brackets are closed as are opened behind it. -/
theorem isAngleFree_of_taken (inside : Bool) {a m : Text} (ha : BalancedAngles a)
    (hm : m.count '<' + inside.toNat ≤ m.count '>')
    (h : IsAngleFree
      (unwrapArguments inside (dropLastArguments .inArgument (a ++ (m ++ '>' :: z))))) :
    IsAngleFree a := by
  by_contra hangle
  obtain ⟨v, next, -, hdrop, hcount⟩ := exists_release_of_nested ha hangle m z
  rw [hdrop] at h
  have hle := count_close_le_of_isAngleFree h (List.prefix_append v _)
  omega

end

theorem dropTrailing_eq_iff {x : Char} {t q : Text} (hq : ¬ [x] <:+ q) :
    dropTrailing x t = q ↔ ∃ j, t = q ++ List.replicate j x := by
  constructor
  · rintro rfl
    refine ⟨(t.reverse.takeWhile (· = x)).length, ?_⟩
    have hrun : t.reverse.takeWhile (· = x) =
        List.replicate (t.reverse.takeWhile (· = x)).length x :=
      List.eq_replicate_iff.2 ⟨rfl, fun c hc => by simpa using List.mem_takeWhile_imp hc⟩
    rw [dropTrailing, ← List.reverse_replicate, ← hrun, ← List.reverse_append,
      List.takeWhile_append_dropWhile, List.reverse_reverse]
  · rintro ⟨j, rfl⟩
    have hrun : ∀ c ∈ List.replicate j x, decide (c = x) = true := fun c hc =>
      decide_eq_true (List.eq_of_mem_replicate hc)
    rw [dropTrailing, List.reverse_append, List.reverse_replicate,
      List.dropWhile_append_of_pos hrun]
    exact dropTrailing_eq_self_iff.2 hq

/-- A text that ends in no colon and holds no line feed is left exactly of itself with colons behind
it. -/
theorem dropTrailingColons_eq_iff {t q : Text} (hfeed : '\n' ∉ q) (hq : ¬ [':'] <:+ q) :
    dropTrailingColons t = q ↔ ∃ j, t = q ++ List.replicate j ':' := by
  by_cases hlast : t.getLast? = some '\n'
  · obtain ⟨front, rfl⟩ := List.getLast?_eq_some_iff.1 hlast
    rw [dropTrailingColons_feed]
    refine iff_of_false ?_ ?_
    · rintro rfl
      exact hfeed (by simp)
    · rintro ⟨j, hj⟩
      have hmem : '\n' ∈ q ++ List.replicate j ':' := hj ▸ by simp
      rcases List.mem_append.1 hmem with hmem | hmem
      · exact hfeed hmem
      · exact absurd (List.eq_of_mem_replicate hmem) (by decide)
  · rw [dropTrailingColons_of_ne hlast, dropTrailing_eq_iff hq]

end ClassDiagram.Namespace
