import ClassDiagram.Proofs.Diagram.Naming
import ClassDiagram.Proofs.Namespace.Scans

/-!
# Namespaces as components in a row

A namespace is written as components with `::` between them: identifiers, each perhaps with an
argument in angle brackets in which further brackets may be nested. The scans go over one component
after the other. The first one begins anew at each name, so what is left of a namespace is, for each
component, its name and what is left of its argument. The names are always left (`names_sublist`),
and a plain argument leaves nothing if no other one is opened behind it on its line
(`remains_of_isPlain`).
-/
namespace ClassDiagram.Namespace
open Text

/-- A component of a namespace: an identifier, and perhaps an argument. -/
structure Component where
  name : Text
  argument : Option Text
  isIdentifier : IsIdentifier name
  balanced : ∀ a ∈ argument, BalancedAngles a

/-- The argument of a component in its brackets. -/
def Component.block (c : Component) : Text :=
  match c.argument with
  | none => []
  | some a => '<' :: (a ++ ['>'])

/-- A component as it is written. -/
def Component.text (c : Component) : Text := c.name ++ c.block

/-- The arguments of some components. -/
def arguments (cs : List Component) : List Text := cs.filterMap Component.argument

/-- A namespace as it is written, with colons at the end. -/
def spell (cs : List Component) (trailing : Nat) : Text :=
  qualify (cs.map Component.text) ++ List.replicate trailing ':'

/-- What is left of a namespace before the colons at its end go. -/
def remains (cs : List Component) (trailing : Nat) : Text :=
  unwrapArguments false (dropLastArguments .fresh (spell cs trailing))

/-- What stands in front of further components. -/
def joint (cs : List Component) : Text := if cs = [] then [] else colons

section
variable {c : Component} {r : List Component} {n : Nat}

theorem isAngleFree_name (c : Component) : IsAngleFree c.name :=
  ⟨c.isIdentifier.notMem (by decide), c.isIdentifier.notMem (by decide)⟩

theorem feed_notMem_name (c : Component) : '\n' ∉ c.name := c.isIdentifier.notMem (by decide)

theorem isAngleFree_joint (r : List Component) : IsAngleFree (joint r) := by
  unfold joint
  split <;> decide

theorem feed_notMem_joint (r : List Component) : '\n' ∉ joint r := by
  unfold joint
  split <;> decide

theorem isAngleFree_colons (n : Nat) : IsAngleFree (List.replicate n ':') :=
  ⟨fun h => absurd (List.eq_of_mem_replicate h) (by decide),
    fun h => absurd (List.eq_of_mem_replicate h) (by decide)⟩

theorem block_append {a : Text} (hc : c.argument = some a) (z : Text) :
    c.block ++ z = '<' :: (a ++ '>' :: z) := by
  simp [Component.block, hc]

theorem spell_nil (n : Nat) : spell [] n = List.replicate n ':' := by
  simp [spell, qualify, joinWith]

theorem spell_cons (c : Component) (r : List Component) (n : Nat) :
    spell (c :: r) n = c.name ++ (c.block ++ (joint r ++ spell r n)) := by
  unfold spell joint
  cases r with
  | nil => simp [qualify, joinWith, Component.text]
  | cons d r => simp [qualify, joinWith, Component.text]

theorem head?_spell (r : List Component) (n : Nat) : (spell r n).head? ≠ some '<' := by
  cases r with
  | nil => cases n <;> simp [spell, qualify, joinWith, List.replicate_succ]
  | cons c r =>
    obtain ⟨x, w, hname⟩ := List.exists_cons_of_ne_nil c.isIdentifier.1
    have hx : isWord x = true := c.isIdentifier.2 x (by simp [hname])
    rw [spell_cons, hname]
    rintro ⟨⟩
    exact absurd hx (by decide)

theorem arguments_of_none (hc : c.argument = none) : arguments (c :: r) = arguments r := by
  rw [arguments, List.filterMap_cons, hc]
  rfl

theorem arguments_of_some {a : Text} (hc : c.argument = some a) :
    arguments (c :: r) = a :: arguments r := by
  rw [arguments, List.filterMap_cons, hc]
  rfl

theorem qualify_names_cons (c : Component) (r : List Component) :
    qualify ((c :: r).map Component.name) =
      c.name ++ (joint r ++ qualify (r.map Component.name)) := by
  unfold joint
  cases r with
  | nil => simp [qualify, joinWith]
  | cons d r => simp [qualify, joinWith]

theorem isQualified_names (hr : r ≠ []) : IsQualified (qualify (r.map Component.name)) := by
  refine ⟨r.map Component.name, by simpa using hr, fun w hw => ?_, rfl⟩
  obtain ⟨c, -, rfl⟩ := List.mem_map.1 hw
  exact c.isIdentifier

theorem isWord_or_colon_of_mem_names {x : Char} (hx : x ∈ qualify (r.map Component.name)) :
    isWord x = true ∨ x = ':' := by
  by_cases hr : r = []
  · subst hr
    simp [qualify, joinWith] at hx
  · exact (isQualified_names hr).isWord_or_colon hx

theorem isAngleFree_names (r : List Component) : IsAngleFree (qualify (r.map Component.name)) :=
  ⟨fun h => absurd (isWord_or_colon_of_mem_names h) (by decide),
    fun h => absurd (isWord_or_colon_of_mem_names h) (by decide)⟩

/-- Behind a component stand no brackets if only the names are left. -/
theorem isAngleFree_rest (r : List Component) (j : Nat) :
    IsAngleFree (joint r ++ (qualify (r.map Component.name) ++ List.replicate j ':')) :=
  isAngleFree_append_iff.2 ⟨isAngleFree_joint r,
    isAngleFree_append_iff.2 ⟨isAngleFree_names r, isAngleFree_colons j⟩⟩

/-- The names begin with a word character. -/
theorem exists_head_names (hr : r ≠ []) :
    ∃ x t, qualify (r.map Component.name) = x :: t ∧ isWord x = true := by
  obtain ⟨x, hx, hword⟩ := (Option.any_eq_true _ _).1 (isQualified_names hr).hasWordEnds.1
  obtain ⟨t, ht⟩ := List.head?_eq_some_iff.1 hx
  exact ⟨x, t, ht, hword⟩

theorem opensLater_joint (r : List Component) (n : Nat) :
    opensLater (joint r ++ spell r n) = opensLater (spell r n) :=
  opensLater_append (isAngleFree_joint r).1 (feed_notMem_joint r) _

theorem open_notMem_spell (hr : arguments r = []) : '<' ∉ spell r n := by
  induction r with
  | nil =>
    rw [spell_nil]
    exact (isAngleFree_colons n).1
  | cons c r ih =>
    cases hc : c.argument with
    | some a => simp [arguments_of_some hc] at hr
    | none =>
      rw [arguments_of_none hc] at hr
      rw [spell_cons, Component.block, hc]
      simp only [List.mem_append, List.not_mem_nil, false_or, not_or]
      exact ⟨(isAngleFree_name c).1, (isAngleFree_joint r).1, ih hr⟩

/-- A component with an argument that is not empty opens an argument. -/
theorem opensLater_spell {a : Text} {args : List Text} (hr : arguments r = a :: args)
    (hne : a ≠ []) (n : Nat) : opensLater (spell r n) = true := by
  induction r with
  | nil => simp [arguments] at hr
  | cons c r ih =>
    rw [spell_cons, opensLater_append (isAngleFree_name c).1 (feed_notMem_name c)]
    cases hc : c.argument with
    | none =>
      rw [arguments_of_none hc] at hr
      rw [Component.block, hc, List.nil_append, opensLater_joint]
      exact ih hr
    | some b =>
      rw [arguments_of_some hc] at hr
      obtain ⟨rfl, -⟩ := List.cons.inj hr
      have hopens : opensArgument (b ++ '>' :: (joint r ++ spell r n)) = true := by
        cases c.balanced b hc with
        | nil => exact absurd rfl hne
        | char _ hclose _ => simp [opensArgument, hclose]
        | block _ _ => simp [opensArgument]
      rw [block_append hc, opensLater_open, hopens, Bool.true_or]

theorem dropLastArguments_name (c : Component) (z : Text) :
    dropLastArguments .fresh (c.name ++ z) = c.name ++ dropLastArguments .behindText z := by
  obtain ⟨x, w, hname⟩ := List.exists_cons_of_ne_nil c.isIdentifier.1
  have hx : x ≠ '<' := fun h => (isAngleFree_name c).1 (by simp [hname, h])
  rw [dropLastArguments_fresh (by simpa [hname] using hx),
    dropLastArguments_append (isAngleFree_name c).1 (feed_notMem_name c)]

/-- Behind an argument the scan begins anew with the next component. -/
theorem dropLastArguments_joint {scan : Scan} (hscan : scan ≠ .inArgument) (r : List Component)
    (n : Nat) :
    dropLastArguments scan (joint r ++ spell r n) =
      joint r ++ dropLastArguments .fresh (spell r n) := by
  by_cases hr : r = []
  · subst hr
    have hjoint : joint [] = [] := rfl
    rw [hjoint, List.nil_append, List.nil_append, spell_nil,
      dropLastArguments_of_notMem hscan (isAngleFree_colons n).1,
      dropLastArguments_of_notMem (by simp) (isAngleFree_colons n).1]
  · have hcolons : joint r = [':', ':'] := by rw [joint, if_neg hr]; rfl
    rw [hcolons, List.cons_append, List.cons_append, List.nil_append,
      dropLastArguments_cons hscan (by decide), if_neg (by decide),
      dropLastArguments_cons (by simp) (by decide), if_neg (by decide),
      dropLastArguments_fresh (head?_spell r n)]
    rfl

theorem remains_cons (c : Component) (r : List Component) (n : Nat) :
    remains (c :: r) n = c.name ++ unwrapArguments false
      (dropLastArguments .behindText (c.block ++ (joint r ++ spell r n))) := by
  rw [remains, spell_cons, dropLastArguments_name, unwrapArguments_append (isAngleFree_name c).1]

/-- Nothing is left of an argument if the first scan goes on behind it. -/
theorem remains_of_dropped (h : dropLastArguments .behindText (c.block ++ (joint r ++ spell r n)) =
      joint r ++ dropLastArguments .fresh (spell r n)) :
    remains (c :: r) n = c.name ++ (joint r ++ remains r n) := by
  rw [remains_cons, h, unwrapArguments_append (isAngleFree_joint r).1, remains]

theorem remains_of_none (hc : c.argument = none) :
    remains (c :: r) n = c.name ++ (joint r ++ remains r n) := by
  apply remains_of_dropped
  rw [Component.block, hc]
  exact dropLastArguments_joint (by simp) r n

theorem remains_of_isPlain {a : Text} (hc : c.argument = some a) (ha : IsPlain a)
    (hlast : '\n' ∈ a ∨ opensLater (spell r n) = false) :
    remains (c :: r) n = c.name ++ (joint r ++ remains r n) := by
  apply remains_of_dropped
  rw [← opensLater_joint] at hlast
  rw [block_append hc, dropLastArguments_plain ha hlast]
  exact dropLastArguments_joint (by simp) r n

/-- What is left of an argument stands in front of what is left of the rest. -/
theorem exists_dropLastArguments_block (c : Component) (r : List Component) (n : Nat) :
    ∃ v, dropLastArguments .behindText (c.block ++ (joint r ++ spell r n)) =
      v ++ (joint r ++ dropLastArguments .fresh (spell r n)) := by
  cases hc : c.argument with
  | none =>
    rw [Component.block, hc]
    exact ⟨[], dropLastArguments_joint (by simp) r n⟩
  | some a =>
    obtain ⟨v, next, hnext, hdrop, -⟩ :=
      exists_release .behindText ('<' :: a) (joint r ++ spell r n)
    rw [block_append hc]
    exact ⟨v, by rw [← List.cons_append, hdrop, dropLastArguments_joint hnext]⟩

/-- The names are kept whatever becomes of the arguments. -/
theorem names_sublist (r : List Component) (n : Nat) :
    (qualify (r.map Component.name)).Sublist
      (withoutAngles (dropLastArguments .fresh (spell r n))) := by
  induction r with
  | nil => exact List.nil_sublist _
  | cons c r ih =>
    obtain ⟨v, hv⟩ := exists_dropLastArguments_block c r n
    rw [qualify_names_cons, spell_cons, dropLastArguments_name, hv, withoutAngles_append,
      withoutAngles_append, withoutAngles_append, withoutAngles_eq_self (isAngleFree_name c),
      withoutAngles_eq_self (isAngleFree_joint r)]
    refine (List.Sublist.refl _).append (List.Sublist.trans ?_ (List.sublist_append_right _ _))
    exact (List.Sublist.refl _).append ih

end

end ClassDiagram.Namespace
