import ClassDiagram.Proofs.Namespace.Components

/-!
# Which template arguments are taken away

Cleaning is meant to leave the names of the components alone. It does so if there is one argument at
most and no brackets are nested in it. A second argument, and whatever surrounds the innermost one,
loses its brackets only, and its text ends up among the names. If an argument holds a line feed, the
ones behind it are on another line and count for themselves.

One more case comes out right by chance: an argument at the end of which nothing is left but colons,
since colons at the end go in any case (`Fades`). `clean_spell_iff` says that there is no other.
-/
namespace ClassDiagram.Namespace
open Text

/-- Arguments that are all taken away: each is plain, and all but the last hold a line feed. -/
def TakenAway (args : List Text) : Prop :=
  (∀ a ∈ args, IsPlain a) ∧ ∀ a ∈ args.dropLast, '\n' ∈ a

/-- An argument of which so many colons are left: it has plain arguments between colons, no two of
them side by side, and all but the last hold a line feed. -/
inductive Fades : Text → Nat → Prop where
  | nil : Fades [] 0
  | colon {a : Text} {k : Nat} (h : Fades a k) : Fades (':' :: a) (k + 1)
  | block {x a : Text} {k : Nat} (hx : IsPlain x) (hlast : '\n' ∈ x ∨ '<' ∉ a)
    (hapart : a.head? ≠ some '<') (h : Fades a k) : Fades ('<' :: (x ++ '>' :: a)) k

/-- Only colons are left of the argument of the last component, and those of the others are plain
and hold a line feed. -/
def FadesAway (cs : List Component) : Prop :=
  ∃ front last a k, cs = front ++ [last] ∧ last.argument = some a ∧ Fades a k ∧ 0 < k ∧
    ∀ b ∈ arguments front, IsPlain b ∧ '\n' ∈ b

section
variable {cs : List Component} {args : List Text} {a : Text}

theorem takenAway_cons_iff :
    TakenAway (a :: args) ↔ IsPlain a ∧ (args ≠ [] → '\n' ∈ a) ∧ TakenAway args := by
  unfold TakenAway
  cases args with
  | nil => simp
  | cons b args =>
    rw [List.dropLast_cons_of_ne_nil (List.cons_ne_nil b args)]
    simp only [List.forall_mem_cons]
    constructor
    · rintro ⟨⟨ha, hplain⟩, hfeed, hfeeds⟩
      exact ⟨ha, fun _ => hfeed, hplain, hfeeds⟩
    · rintro ⟨ha, hfeed, hplain, hfeeds⟩
      exact ⟨⟨ha, hplain⟩, hfeed (by simp), hfeeds⟩

theorem remains_of_takenAway (h : TakenAway (arguments cs)) (n : Nat) :
    remains cs n = qualify (cs.map Component.name) ++ List.replicate n ':' := by
  induction cs with
  | nil =>
    have hself := unwrapArguments_append (isAngleFree_colons n).1 []
    rw [remains, spell_nil, dropLastArguments_of_notMem (by simp) (isAngleFree_colons n).1]
    simpa [qualify, joinWith, unwrapArguments] using hself
  | cons c r ih =>
    rw [qualify_names_cons, List.append_assoc, List.append_assoc]
    cases hc : c.argument with
    | none =>
      rw [arguments_of_none hc] at h
      rw [remains_of_none hc, ih h]
    | some a =>
      rw [arguments_of_some hc] at h
      obtain ⟨hplain, hfeed, hrest⟩ := takenAway_cons_iff.1 h
      rw [remains_of_isPlain hc hplain ?_, ih hrest]
      by_cases hargs : arguments r = []
      · exact .inr (opensLater_of_notMem (open_notMem_spell hargs))
      · exact .inl (hfeed hargs)

end

namespace Fades
variable {a : Text} {k : Nat}

theorem dropLastArguments_eq (h : Fades a k) (n : Nat) :
    dropLastArguments .behindText (a ++ '>' :: List.replicate n ':') =
      List.replicate k ':' ++ '>' :: List.replicate n ':' := by
  have hend : '<' ∉ '>' :: List.replicate n ':' := by
    rw [List.mem_cons, not_or]
    exact ⟨by decide, (isAngleFree_colons n).1⟩
  induction h with
  | nil => exact dropLastArguments_of_notMem (by simp) hend
  | colon _ ih =>
    rw [List.cons_append, dropLastArguments_cons (by simp) (by decide),
      if_neg (by decide), ih]
    rfl
  | @block x a k hx hlast hapart _ ih =>
    have hlast' : '\n' ∈ x ∨ opensLater (a ++ '>' :: List.replicate n ':') = false := by
      refine hlast.imp_right fun ha => opensLater_of_notMem ?_
      rw [List.mem_append, not_or]
      exact ⟨ha, hend⟩
    have hhead : (a ++ '>' :: List.replicate n ':').head? ≠ some '<' := by
      cases a with
      | nil => simp
      | cons c a => simpa using hapart
    rw [List.cons_append, List.append_assoc, List.cons_append, dropLastArguments_plain hx hlast',
      dropLastArguments_fresh hhead, ih]

theorem opensLater_eq (h : Fades a k) (hopen : '<' ∈ a) (z : Text) :
    opensLater (a ++ z) = true := by
  induction h with
  | nil => simp at hopen
  | colon _ ih =>
    have hrest := ih ((List.mem_cons.1 hopen).resolve_left (by decide))
    rw [List.cons_append, opensLater, hrest]
    simp
  | block hx _ _ _ _ =>
    rw [List.cons_append, opensLater_open, List.append_assoc, List.cons_append,
      opensArgument_append_close hx.1 hx.2.2, Bool.true_or]

theorem eq_replicate (h : Fades a k) (hopen : '<' ∉ a) : a = List.replicate k ':' := by
  induction h with
  | nil => rfl
  | colon _ ih =>
    rw [List.mem_cons, not_or] at hopen
    rw [List.replicate_succ, ← ih hopen.2]
  | block _ _ _ _ _ => simp at hopen

theorem ne_nil (h : Fades a k) (hk : 0 < k) : a ≠ [] := by
  rintro rfl
  cases h
  exact Nat.lt_irrefl 0 hk

/-- A component of whose argument only colons are left, at the end of a namespace. -/
theorem exists_remains (h : Fades a k) (hk : 0 < k) {c : Component} (hc : c.argument = some a)
    (n : Nat) : ∃ j, remains [c] n = c.name ++ List.replicate j ':' := by
  have hne : List.replicate k ':' ≠ [] := by
    rw [Ne, List.replicate_eq_nil_iff]
    omega
  by_cases hopen : '<' ∈ a
  · have hclose := (isAngleFree_colons k).2
    have htail : joint [] ++ spell [] n = List.replicate n ':' := rfl
    refine ⟨k + n, ?_⟩
    rw [remains_cons, block_append hc, htail, dropLastArguments_open, h.opensLater_eq hopen,
      Bool.not_true, Bool.and_false, if_neg Bool.false_ne_true, h.dropLastArguments_eq,
      unwrapArguments_open, opensArgument_append_close hne hclose, if_pos rfl,
      unwrapArguments_close hclose, ← List.append_nil (List.replicate n ':'),
      unwrapArguments_append (isAngleFree_colons n).1, unwrapArguments, List.append_nil,
      List.replicate_append_replicate]
  · have hplain : IsPlain a := by
      rw [h.eq_replicate hopen]
      exact ⟨hne, isAngleFree_colons k⟩
    have htaken : TakenAway (arguments [c]) := by
      rw [arguments_of_some hc, takenAway_cons_iff]
      exact ⟨hplain, fun h => absurd rfl h, by simp [arguments, TakenAway]⟩
    exact ⟨n, remains_of_takenAway htaken n⟩

end Fades

namespace FadesAway
variable {c : Component} {r : List Component}

theorem cons (h : FadesAway r) (hc : ∀ a ∈ c.argument, IsPlain a ∧ '\n' ∈ a) :
    FadesAway (c :: r) := by
  obtain ⟨front, last, a, k, rfl, hlast, ha, hk, hfront⟩ := h
  refine ⟨c :: front, last, a, k, rfl, hlast, ha, hk, fun b hb => ?_⟩
  obtain ⟨d, hd, hdb⟩ := List.mem_filterMap.1 hb
  rcases List.mem_cons.1 hd with rfl | hd
  · exact hc b hdb
  · exact hfront b (List.mem_filterMap.2 ⟨d, hd, hdb⟩)

theorem arguments_ne_nil (h : FadesAway r) : arguments r ≠ [] := by
  obtain ⟨front, last, a, k, rfl, hlast, -, -, -⟩ := h
  simp [arguments, hlast]

theorem exists_remains (h : FadesAway r) (n : Nat) :
    ∃ j, remains r n = qualify (r.map Component.name) ++ List.replicate j ':' := by
  obtain ⟨front, last, a, k, rfl, hlast, ha, hk, hfront⟩ := h
  induction front with
  | nil => exact ha.exists_remains hk hlast n
  | cons c front ih =>
    have hremains : remains (c :: (front ++ [last])) n =
        c.name ++ (joint (front ++ [last]) ++ remains (front ++ [last]) n) := by
      cases hc : c.argument with
      | none => exact remains_of_none hc
      | some b =>
        obtain ⟨hplain, hfeed⟩ := hfront b (by simp [arguments_of_some hc])
        exact remains_of_isPlain hc hplain (.inl hfeed)
    have hrest : ∀ b ∈ arguments front, IsPlain b ∧ '\n' ∈ b := by
      intro b hb
      obtain ⟨d, hd, hb⟩ := List.mem_filterMap.1 hb
      exact hfront b (List.mem_filterMap.2 ⟨d, by simp [hd], hb⟩)
    obtain ⟨j, hj⟩ := ih hrest
    refine ⟨j, ?_⟩
    rw [List.cons_append, hremains, hj, qualify_names_cons]
    simp only [List.append_assoc]

end FadesAway

/-- Text in front of the joint of two components cannot be the beginning of that joint and of the
names behind it. -/
theorem false_of_joint {v z q : Text} {x : Char} {j : Nat} (hv : v ≠ []) (hq : (x :: q).Sublist z)
    (hx : isWord x = true)
    (h : v ++ (colons ++ z) = colons ++ (x :: q ++ List.replicate j ':')) : False := by
  -- the names are all in `z`, so there are none but colons in `v`
  have hcount := congrArg (List.countP fun c => c ≠ ':') h
  have hnames : (x :: q).countP (fun c => c ≠ ':') ≤ z.countP fun c => c ≠ ':' := hq.countP_le
  have hcolons : (List.replicate j ':').countP (fun c => c ≠ ':') = 0 := by
    simp [List.countP_replicate]
  have hv' : v.countP (fun c => c ≠ ':') = 0 := by
    simp only [List.countP_append] at hcount
    omega
  obtain ⟨m, rfl⟩ : ∃ m, v = List.replicate m ':' := by
    refine ⟨v.length, List.eq_replicate_iff.2 ⟨rfl, fun c hc => ?_⟩⟩
    have hc' := List.countP_eq_zero.1 hv' c hc
    simpa using hc'
  have hswap : List.replicate m ':' ++ (colons ++ z) = colons ++ (List.replicate m ':' ++ z) := by
    have hcolons : colons = List.replicate 2 ':' := rfl
    rw [hcolons, ← List.append_assoc, ← List.append_assoc, List.replicate_append_replicate,
      List.replicate_append_replicate, Nat.add_comm]
  rw [hswap, List.append_cancel_left_eq] at h
  cases m with
  | zero => exact hv rfl
  | succ m =>
    rw [List.replicate_succ] at h
    obtain ⟨rfl, -⟩ := List.cons.inj h
    exact absurd hx (by decide)

section
variable {c : Component} {r : List Component} {a : Text} {n j : Nat}

/-- An argument that is not taken away is the last one, if only the names are left. -/
theorem eq_nil_of_kept (ha : BalancedAngles a)
    (h : unwrapArguments false
        ('<' :: dropLastArguments .behindText (a ++ '>' :: (joint r ++ spell r n))) =
      joint r ++ (qualify (r.map Component.name) ++ List.replicate j ':')) : r = [] := by
  by_contra hr
  have hright := isAngleFree_rest r j
  obtain ⟨x, y, hsplit, hne, hx⟩ := exists_argument_of_isAngleFree (h ▸ hright)
  obtain ⟨v, next, hnext, hdrop, hcount⟩ := exists_release .behindText a (joint r ++ spell r n)
  rw [dropLastArguments_joint hnext] at hdrop
  -- the text that is unwrapped ends at a bracket of the argument itself
  have hxv : x <+: v := by
    have hclose : '>' ∈ v := by
      have hbalanced := ha.count_eq
      simp only [Scan.pending] at hcount
      exact List.count_pos_iff.1 (by omega)
    rcases List.prefix_or_prefix_of_prefix (hsplit ▸ List.prefix_append x _)
      (hdrop ▸ List.prefix_append v _) with hshort | hlong
    · exact hshort
    · exact absurd (hlong.subset hclose) hx.2
  have hv : withoutAngles v ≠ [] := by
    obtain ⟨back, rfl⟩ := hxv
    rw [withoutAngles_append, withoutAngles_eq_self hx]
    exact List.append_ne_nil_of_left_ne_nil hne _
  have hcontents := congrArg withoutAngles h
  have hopen : withoutAngles ('<' :: (v ++ (joint r ++ dropLastArguments .fresh (spell r n)))) =
      withoutAngles v ++ (joint r ++ withoutAngles (dropLastArguments .fresh (spell r n))) := by
    rw [← withoutAngles_eq_self (isAngleFree_joint r), ← withoutAngles_append,
      ← withoutAngles_append, withoutAngles_eq_self (isAngleFree_joint r)]
    simp [withoutAngles]
  rw [withoutAngles_unwrapArguments, hdrop, hopen, withoutAngles_eq_self hright] at hcontents
  have hjoint : joint r = colons := if_neg hr
  obtain ⟨x, q, hq, hword⟩ := exists_head_names hr
  have hnames := names_sublist r n
  rw [hjoint, hq] at hcontents
  rw [hq] at hnames
  exact false_of_joint hv hnames hword hcontents

/-- An argument at the end of a namespace that leaves nothing but colons is one that fades. -/
theorem exists_fades (ha : BalancedAngles a) {scan : Scan} (hscan : scan ≠ .inArgument)
    (h : ∀ c ∈ unwrapArguments true
      (dropLastArguments scan (a ++ '>' :: List.replicate n ':')), c = ':') :
    (∃ k, Fades a k) ∧ (scan = .fresh → a.head? ≠ some '<') := by
  induction ha generalizing scan with
  | nil => exact ⟨⟨0, .nil⟩, by simp⟩
  | @char c r hopen hclose _ ih =>
    rw [List.cons_append, dropLastArguments_cons hscan hopen, unwrapArguments_inside hclose,
      List.forall_mem_cons] at h
    obtain ⟨rfl, hrest⟩ := h
    obtain ⟨⟨k, hk⟩, -⟩ := ih (by decide) hrest
    exact ⟨⟨k + 1, .colon hk⟩, by simp⟩
  | @block inner r hinner hr _ ih =>
    rw [List.cons_append, List.append_assoc, List.cons_append] at h
    have hkept : ∀ {z : Text}, ¬ ∀ c ∈ unwrapArguments true ('<' :: z), c = ':' := by
      intro z hall
      rw [unwrapArguments_inside (by decide), List.forall_mem_cons] at hall
      exact absurd hall.1 (by decide)
    cases scan with
    | inArgument => exact absurd rfl hscan
    | fresh =>
      rw [dropLastArguments] at h
      exact absurd h hkept
    | behindText =>
      rw [dropLastArguments_open] at h
      split at h
      · rename_i htaken
        rw [Bool.and_eq_true, Bool.not_eq_true'] at htaken
        have hfree : IsAngleFree inner := by
          refine isAngleFree_of_taken true (m := '>' :: r) (z := List.replicate n ':') hinner ?_
            ⟨fun hmem => absurd (h _ hmem) (by decide), fun hmem => absurd (h _ hmem) (by decide)⟩
          rw [List.count_cons_self, List.count_cons_of_ne (by decide), hr.count_eq]
          exact Nat.le_refl _
        rw [dropLastArguments_close hfree.2] at h
        obtain ⟨⟨k, hk⟩, hapart⟩ := ih (by simp) h
        have hlast : '\n' ∈ inner ∨ '<' ∉ r := by
          refine ((opensLater_argument hfree.1 _).1 htaken.2).imp_right fun hlater hmem => ?_
          rw [hk.opensLater_eq hmem] at hlater
          exact Bool.noConfusion hlater
        exact ⟨⟨k, .block ⟨ne_nil_of_opensArgument htaken.1, hfree⟩ hlast (hapart rfl) hk⟩, by simp⟩
      · exact absurd h hkept

/-- An argument that is not taken away and leaves only colons is one that fades. -/
theorem fadesAway_of_kept (hc : c.argument = some a)
    (h : unwrapArguments false
        ('<' :: dropLastArguments .behindText (a ++ '>' :: List.replicate n ':')) =
      List.replicate j ':') : FadesAway [c] := by
  obtain ⟨x, y, hsplit, hne, hx⟩ :=
    exists_argument_of_isAngleFree (h ▸ isAngleFree_colons j)
  have hopens : opensArgument (dropLastArguments .behindText (a ++ '>' :: List.replicate n ':')) =
      true := by
    rw [hsplit]
    exact opensArgument_append_close hne hx.2 y
  rw [unwrapArguments_open, hopens, if_pos rfl] at h
  have hall : ∀ b ∈ unwrapArguments true
      (dropLastArguments .behindText (a ++ '>' :: List.replicate n ':')), b = ':' := by
    intro b hb
    rw [h] at hb
    exact List.eq_of_mem_replicate hb
  obtain ⟨⟨k, hk⟩, -⟩ := exists_fades (c.balanced a hc) (by simp) hall
  refine ⟨[], c, a, k, rfl, hc, hk, ?_, by simp [arguments]⟩
  rw [hk.dropLastArguments_eq n] at hsplit
  cases k with
  | succ k => exact Nat.succ_pos k
  | zero =>
    obtain ⟨b, x, rfl⟩ := List.exists_cons_of_ne_nil hne
    obtain ⟨rfl, -⟩ := List.cons.inj hsplit
    exact absurd rfl (isAngleFree_cons_iff.1 hx).1.2

theorem fate_cons_of_none (hc : c.argument = none) (h : TakenAway (arguments r) ∨ FadesAway r) :
    TakenAway (arguments (c :: r)) ∨ FadesAway (c :: r) := by
  rw [arguments_of_none hc]
  exact h.imp_right fun hfades => hfades.cons (by simp [hc])

theorem fate_cons_of_isPlain (hc : c.argument = some a) (ha : IsPlain a)
    (hfeed : arguments r ≠ [] → '\n' ∈ a) (h : TakenAway (arguments r) ∨ FadesAway r) :
    TakenAway (arguments (c :: r)) ∨ FadesAway (c :: r) := by
  rw [arguments_of_some hc]
  rcases h with htaken | hfades
  · exact .inl (takenAway_cons_iff.2 ⟨ha, hfeed, htaken⟩)
  · refine .inr (hfades.cons fun b hb => ?_)
    obtain rfl : a = b := by simpa [hc] using hb
    exact ⟨ha, hfeed hfades.arguments_ne_nil⟩

/-- Arguments that go are not empty. -/
theorem ne_nil_of_mem_arguments (h : TakenAway (arguments r) ∨ FadesAway r)
    (ha : a ∈ arguments r) : a ≠ [] := by
  rcases h with h | ⟨front, last, b, k, rfl, hlast, hb, hk, hfront⟩
  · exact (h.1 a ha).1
  · obtain ⟨d, hd, hda⟩ := List.mem_filterMap.1 ha
    rcases List.mem_append.1 hd with hd | hd
    · exact (hfront a (List.mem_filterMap.2 ⟨d, hd, hda⟩)).1.1
    · rw [List.mem_singleton.1 hd, hlast] at hda
      obtain rfl := Option.some.inj hda
      exact hb.ne_nil hk

/-- If only the names are left, then the arguments are of one of the two kinds. -/
theorem fate_of_remains {cs : List Component}
    (h : remains cs n = qualify (cs.map Component.name) ++ List.replicate j ':') :
    TakenAway (arguments cs) ∨ FadesAway cs := by
  induction cs with
  | nil => exact .inl (by simp [arguments, TakenAway])
  | cons c r ih =>
    rw [qualify_names_cons, List.append_assoc, List.append_assoc] at h
    have hnext : remains (c :: r) n = c.name ++ (joint r ++ remains r n) →
        TakenAway (arguments r) ∨ FadesAway r := by
      intro hcons
      rw [hcons, List.append_cancel_left_eq, List.append_cancel_left_eq] at h
      exact ih h
    cases hc : c.argument with
    | none => exact fate_cons_of_none hc (hnext (remains_of_none hc))
    | some a =>
      have hrest := h
      rw [remains_cons, List.append_cancel_left_eq, block_append hc,
        dropLastArguments_open] at hrest
      split at hrest
      · rename_i htaken
        rw [Bool.and_eq_true, Bool.not_eq_true'] at htaken
        have hfree : IsAngleFree a := by
          refine isAngleFree_of_taken false (m := []) (z := joint r ++ spell r n)
            (c.balanced a hc) (Nat.le_refl 0) ?_
          rw [List.nil_append, hrest]
          exact isAngleFree_rest r j
        have hplain : IsPlain a := ⟨ne_nil_of_opensArgument htaken.1, hfree⟩
        have hlast := (opensLater_argument hfree.1 _).1 htaken.2
        rw [opensLater_joint] at hlast
        have hfate := hnext (remains_of_isPlain hc hplain hlast)
        refine fate_cons_of_isPlain hc hplain (fun hargs => ?_) hfate
        obtain ⟨b, args, hb⟩ := List.exists_cons_of_ne_nil hargs
        have hne : b ≠ [] := ne_nil_of_mem_arguments hfate (by simp [hb])
        rw [opensLater_spell hb hne n] at hlast
        exact hlast.resolve_right (by simp)
      · obtain rfl := eq_nil_of_kept (c.balanced a hc) hrest
        exact .inr (fadesAway_of_kept hc (by simpa [joint, spell, qualify, joinWith] using hrest))

end

/-- A namespace is cleaned to the names of its components exactly if its arguments are all taken
away, or if nothing but colons at its end is left of them. -/
theorem clean_spell_iff (cs : List Component) (trailing : Nat) :
    clean (spell cs trailing) = qualify (cs.map Component.name) ↔
      TakenAway (arguments cs) ∨ FadesAway cs := by
  have hfeed : '\n' ∉ qualify (cs.map Component.name) := fun h =>
    absurd (isWord_or_colon_of_mem_names h) (by decide)
  have hcolon : ¬ [':'] <:+ qualify (cs.map Component.name) := by
    rintro ⟨front, hlast⟩
    have hne : cs ≠ [] := by
      rintro rfl
      exact List.append_ne_nil_of_right_ne_nil front (by simp) hlast
    have hword := (isQualified_names hne).hasWordEnds.2
    rw [← hlast, List.getLast?_concat] at hword
    exact absurd hword (by decide)
  change dropTrailingColons (remains cs trailing) = _ ↔ _
  rw [dropTrailingColons_eq_iff hfeed hcolon]
  constructor
  · rintro ⟨j, hj⟩
    exact fate_of_remains hj
  · rintro (h | h)
    · exact ⟨trailing, remains_of_takenAway h trailing⟩
    · exact h.exists_remains trailing

/-- An argument that is taken away, and one that fades. -/
example : clean "n::a<b>::".toList = "n::a".toList ∧ clean "n::a<:<b>>".toList = "n::a".toList := by
  decide +kernel

/-- The components of `a<b>::c<d>`. -/
def twoArguments : List Component :=
  [{ name := ['a'], argument := some ['b'], isIdentifier := by decide
     balanced := by
       rintro a ⟨⟩
       exact .char (by decide) (by decide) .nil },
    { name := ['c'], argument := some ['d'], isIdentifier := by decide
      balanced := by
        rintro a ⟨⟩
        exact .char (by decide) (by decide) .nil }]

/-- The component `a<b<c>>`. -/
def nestedArgument : Component :=
  { name := ['a'], argument := some ['b', '<', 'c', '>'], isIdentifier := by decide
    balanced := by
      rintro a ⟨⟩
      exact .char (by decide) (by decide)
        (@BalancedAngles.block ['c'] [] (.char (by decide) (by decide) .nil) .nil) }

/-- Of two arguments on a line the first one is kept without its brackets, and so is what stands
around an argument inside another one. -/
theorem clean_keeps_arguments :
    (spell twoArguments 0 = "a<b>::c<d>".toList ∧
      qualify (twoArguments.map Component.name) = "a::c".toList ∧
      clean (spell twoArguments 0) = "ab::c".toList) ∧
    spell [nestedArgument] 0 = "a<b<c>>".toList ∧
      qualify ([nestedArgument].map Component.name) = "a".toList ∧
      clean (spell [nestedArgument] 0) = "ab".toList := by
  decide +kernel

end ClassDiagram.Namespace
