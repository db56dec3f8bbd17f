import ClassDiagram.Container
import ClassDiagram.Proofs.Attempt
import Mathlib.Data.List.TakeWhile

/-!
# Clean namespaces, and the namespaces of nested declarations

A namespace is cleaned by taking characters away: arguments in angle brackets or only their
brackets, and colons at the end. So it stays as it is exactly if there is nothing to take away
(`clean_eq_self_iff`).

A declaration that stands in no other one lies in the namespace that is written for it, cleaned. A
nested declaration lies in the namespace that is written for the outermost one around it, and that
is taken over without cleaning. The two lie in the same namespace exactly if it was clean as it was
written.
-/
namespace ClassDiagram
open Text

namespace Namespace

/-- A text holds an argument: some characters other than `>` between angle brackets. -/
def HoldsArgument (t : Text) : Prop :=
  ∃ front argument back, t = front ++ '<' :: (argument ++ '>' :: back) ∧ argument ≠ [] ∧
    '>' ∉ argument

/-- A text ends in a colon, or in a colon and one line feed. -/
def EndsInColon (t : Text) : Prop := [':'] <:+ t ∨ [':', '\n'] <:+ t

theorem opensArgument_iff {t : Text} :
    opensArgument t = true ↔
      ∃ argument back, t = argument ++ '>' :: back ∧ argument ≠ [] ∧ '>' ∉ argument := by
  cases t with
  | nil => simp [opensArgument]
  | cons c r =>
    simp only [opensArgument, Bool.and_eq_true, decide_eq_true_eq, List.contains_iff_mem]
    constructor
    · rintro ⟨hc, hr⟩
      obtain ⟨front, back, rfl, hfront⟩ := List.eq_append_cons_of_mem hr
      refine ⟨c :: front, back, rfl, List.cons_ne_nil _ _, ?_⟩
      rw [List.mem_cons, not_or]
      exact ⟨fun h => hc h.symm, hfront⟩
    · rintro ⟨argument, back, hsplit, hne, hnot⟩
      cases argument with
      | nil => exact absurd rfl hne
      | cons x argument =>
        obtain ⟨rfl, rfl⟩ := List.cons.inj hsplit
        rw [List.mem_cons, not_or] at hnot
        exact ⟨fun h => hnot.1 h.symm, by simp⟩

theorem holdsArgument_cons_iff {c : Char} {r : Text} :
    HoldsArgument (c :: r) ↔ (c = '<' ∧ opensArgument r = true) ∨ HoldsArgument r := by
  rw [opensArgument_iff]
  constructor
  · rintro ⟨front, argument, back, hsplit, hne, hnot⟩
    cases front with
    | nil =>
      obtain ⟨hc, hr⟩ := List.cons.inj hsplit
      exact .inl ⟨hc, argument, back, hr, hne, hnot⟩
    | cons x front => exact .inr ⟨front, argument, back, (List.cons.inj hsplit).2, hne, hnot⟩
  · rintro (⟨rfl, argument, back, rfl, hne, hnot⟩ | ⟨front, argument, back, rfl, hne, hnot⟩)
    · exact ⟨[], argument, back, rfl, hne, hnot⟩
    · exact ⟨c :: front, argument, back, rfl, hne, hnot⟩

theorem not_holdsArgument_nil : ¬ HoldsArgument [] := by
  rintro ⟨front, argument, back, hsplit, -, -⟩
  exact absurd hsplit.symm (List.append_ne_nil_of_right_ne_nil _ (List.cons_ne_nil _ _))

theorem dropLastArguments_sublist (scan : Scan) (t : Text) :
    (dropLastArguments scan t).Sublist t := by
  fun_induction dropLastArguments scan t with
  | case1 => exact .slnil
  | case2 c r ih => exact ih.cons c
  | case3 c r ih => exact ih.cons_cons c
  | case4 c r _ ih => exact ih.cons c
  | case5 c r _ ih => exact ih.cons_cons c

theorem unwrapArguments_sublist (inside : Bool) (t : Text) :
    (unwrapArguments inside t).Sublist t := by
  fun_induction unwrapArguments inside t with
  | case1 => exact .slnil
  | case2 r ih => exact ih.cons _
  | case3 c r _ ih => exact ih.cons_cons c
  | case4 inside c r _ _ ih => exact ih.cons c
  | case5 inside c r _ _ ih => exact ih.cons_cons c

theorem dropTrailing_sublist (c : Char) (t : Text) : (dropTrailing c t).Sublist t := by
  have h := (List.dropWhile_sublist (l := t.reverse) (· = c)).reverse
  rwa [List.reverse_reverse] at h

theorem dropTrailingColons_feed (t : Text) :
    dropTrailingColons (t ++ ['\n']) = dropTrailing ':' t ++ ['\n'] := by
  rw [dropTrailingColons, if_pos List.getLast?_concat, List.dropLast_concat]

theorem dropTrailingColons_of_ne {t : Text} (h : t.getLast? ≠ some '\n') :
    dropTrailingColons t = dropTrailing ':' t := by
  rw [dropTrailingColons, if_neg h]

theorem dropTrailingColons_sublist (t : Text) : (dropTrailingColons t).Sublist t := by
  by_cases hlast : t.getLast? = some '\n'
  · obtain ⟨front, rfl⟩ := List.getLast?_eq_some_iff.1 hlast
    rw [dropTrailingColons_feed]
    exact (dropTrailing_sublist ':' front).append_right ['\n']
  · rw [dropTrailingColons_of_ne hlast]
    exact dropTrailing_sublist ':' t

theorem unwrapArguments_eq_self_iff {t : Text} :
    unwrapArguments false t = t ↔ ¬ HoldsArgument t := by
  induction t with
  | nil => exact iff_of_true rfl not_holdsArgument_nil
  | cons c r ih =>
    rw [holdsArgument_cons_iff, unwrapArguments]
    by_cases hopen : c = '<' ∧ opensArgument r = true
    · rw [if_neg Bool.false_ne_true, if_pos (by simpa using hopen)]
      refine iff_of_false (fun h => ?_) (fun h => h (.inl hopen))
      have hle := (unwrapArguments_sublist true r).length_le
      rw [h, List.length_cons] at hle
      omega
    · rw [if_neg Bool.false_ne_true, if_neg (by simpa using hopen), List.cons_inj_right, ih]
      simp only [hopen, false_or]

instance (t : Text) : Decidable (HoldsArgument t) :=
  decidable_of_iff (unwrapArguments false t ≠ t) (unwrapArguments_eq_self_iff.not.trans not_not)

instance (t : Text) : Decidable (EndsInColon t) :=
  inferInstanceAs (Decidable ([':'] <:+ t ∨ [':', '\n'] <:+ t))

theorem dropLastArguments_eq_self {scan : Scan} {t : Text} (hscan : scan ≠ .inArgument)
    (h : ¬ HoldsArgument t) : dropLastArguments scan t = t := by
  induction t generalizing scan with
  | nil => cases scan <;> rfl
  | cons c r ih =>
    rw [holdsArgument_cons_iff, not_or] at h
    have hnext : dropLastArguments (if c = '\n' then .fresh else .behindText) r = r := by
      apply ih _ h.2
      split <;> simp
    cases scan with
    | fresh => rw [dropLastArguments, hnext]
    | behindText =>
      have hopen : ¬ (c = '<' && opensArgument r && !opensLater r) = true := by
        intro hc
        simp only [Bool.and_eq_true, decide_eq_true_eq] at hc
        exact h.1 hc.1
      rw [dropLastArguments, if_neg hopen, hnext]
    | inArgument => exact absurd rfl hscan

theorem dropTrailing_eq_self_iff {c : Char} {t : Text} :
    dropTrailing c t = t ↔ ¬ [c] <:+ t := by
  rw [dropTrailing, List.reverse_eq_iff, ← List.reverse_prefix]
  cases t.reverse with
  | nil => simp
  | cons x r =>
    rw [List.reverse_singleton, List.cons_prefix_cons, List.dropWhile_eq_self_iff]
    simp [eq_comm]

theorem endsInColon_feed_iff {t : Text} : EndsInColon (t ++ ['\n']) ↔ [':'] <:+ t := by
  have hcolon : [':', '\n'] <:+ t ++ ['\n'] ↔ [':'] <:+ t := by
    rw [← List.singleton_append, List.suffix_append_inj_of_length_eq rfl, and_iff_left rfl]
  have hfeed : ¬ [':'] <:+ t ++ ['\n'] := by
    rintro ⟨front, h⟩
    exact absurd (List.append_inj_right' h rfl) (by decide)
  rw [EndsInColon, hcolon, or_iff_right hfeed]

theorem endsInColon_iff_of_ne {t : Text} (hlast : t.getLast? ≠ some '\n') :
    EndsInColon t ↔ [':'] <:+ t := by
  constructor
  · rintro (h | ⟨front, rfl⟩)
    · exact h
    · simp at hlast
  · exact .inl

theorem dropTrailingColons_eq_self_iff {t : Text} :
    dropTrailingColons t = t ↔ ¬ EndsInColon t := by
  by_cases hlast : t.getLast? = some '\n'
  · obtain ⟨front, rfl⟩ := List.getLast?_eq_some_iff.1 hlast
    rw [dropTrailingColons_feed, List.append_left_inj, dropTrailing_eq_self_iff,
      endsInColon_feed_iff]
  · rw [dropTrailingColons_of_ne hlast, dropTrailing_eq_self_iff, endsInColon_iff_of_ne hlast]

/-- A namespace stays as it is exactly if it holds no argument and does not end in a colon. -/
theorem clean_eq_self_iff {t : Text} :
    clean t = t ↔ ¬ HoldsArgument t ∧ ¬ EndsInColon t := by
  constructor
  · intro h
    -- no step can put back what another one took away, so each of them takes nothing
    have hfirst := (dropLastArguments_sublist .fresh t).length_le
    have hsecond := (unwrapArguments_sublist false (dropLastArguments .fresh t)).length_le
    have hthird := (dropTrailingColons_sublist
      (unwrapArguments false (dropLastArguments .fresh t))).length_le
    have hlength : (clean t).length = t.length := by rw [h]
    unfold clean at h hlength
    have harguments := (dropLastArguments_sublist .fresh t).eq_of_length (by omega)
    rw [harguments] at h hlength hsecond hthird
    have hunwrap := (unwrapArguments_sublist false t).eq_of_length (by omega)
    rw [hunwrap] at h
    exact ⟨unwrapArguments_eq_self_iff.1 hunwrap, dropTrailingColons_eq_self_iff.1 h⟩
  · rintro ⟨hargument, hcolon⟩
    rw [clean, dropLastArguments_eq_self (by simp) hargument,
      unwrapArguments_eq_self_iff.2 hargument, dropTrailingColons_eq_self_iff.2 hcolon]

end Namespace

namespace Header.Placement

/-- The place of a declaration that stands in no other one. -/
def outermost (written : Text) : Placement := { written, enclosing := [] }

theorem namespaceOf_outermost (written : Text) :
    (outermost written).namespaceOf = .ok (Namespace.clean written) := by
  cases written with
  | nil => rfl
  | cons c r => rfl

theorem namespaceOf_nested {p : Placement} {outer : Text} (hwritten : p.written ≠ [])
    (houter : p.enclosing.getLast? = some (some outer)) : p.namespaceOf = .ok outer := by
  rw [namespaceOf, if_neg hwritten, houter]
  rfl

theorem namespaceOf_ne_outlineMembers (p : Placement) :
    p.namespaceOf ≠ .error .outlineMembers := by
  unfold namespaceOf
  split
  · simp
  · split
    · simp
    · rename_i outermost _
      cases outermost <;> simp [require]

end Header.Placement

namespace Container
open Header

/-- A container is read from a declaration at a place: a class, an enumeration, an enumeration that
is listed in a class, or a heading of which the members are not known. -/
inductive ReadAt : Placement → Container → Prop where
  | ofClass {name : Text} {d : ClassDecl} {c : Container} (h : ofClass name d = .ok c) :
    ReadAt d.place c
  | ofEnum {d : EnumDecl} {c : Container} (h : ofEnum d = .ok c) : ReadAt d.place c
  | ofNestedEnum {outer : Text} {d : EnumDecl} {c : Container} (h : ofNestedEnum outer d = .ok c) :
    ReadAt d.place c
  | placed {bare c : Container} {p : Placement} (h : bare.placeOutline p = (c, .outlineMembers)) :
    ReadAt p c

theorem ns_within (c : Container) (outer : Option Text) : (c.within outer).ns = c.ns := by
  unfold within
  split
  · rfl
  · split <;> rfl

theorem namespaceOf_of_ofEnum {d : EnumDecl} {c : Container} (h : ofEnum d = .ok c) :
    d.place.namespaceOf = .ok c.ns := by
  unfold ofEnum at h
  obtain ⟨ns, hns, h⟩ := bind_eq_ok_iff.1 h
  obtain ⟨values, -, h⟩ := bind_eq_ok_iff.1 h
  obtain rfl := Except.ok.inj h
  exact hns

theorem namespaceOf_of_ofNestedEnum {outer : Text} {d : EnumDecl} {c : Container}
    (h : ofNestedEnum outer d = .ok c) : d.place.namespaceOf = .ok c.ns := by
  unfold ofNestedEnum at h
  obtain ⟨inner, hinner, h⟩ := bind_eq_ok_iff.1 h
  obtain rfl := Except.ok.inj h
  rw [namespaceOf_of_ofEnum hinner]
  exact congrArg Except.ok (ns_within inner (some outer)).symm

/-- A class lies in the namespace of its place, and has the template of its declaration on a single
line. -/
theorem spec_of_ofClass {name : Text} {d : ClassDecl} {c : Container} (h : ofClass name d = .ok c) :
    d.place.namespaceOf = .ok c.ns ∧
      ∃ isAbstract bases, c.trait = .classifier isAbstract (d.template.map singleLine) bases := by
  unfold ofClass at h
  obtain ⟨kind, -, h⟩ := bind_eq_ok_iff.1 h
  obtain ⟨isAbstract, -, h⟩ := bind_eq_ok_iff.1 h
  obtain ⟨inherits, -, h⟩ := bind_eq_ok_iff.1 h
  obtain ⟨bases, -, h⟩ := bind_eq_ok_iff.1 h
  obtain ⟨ns, hns, h⟩ := bind_eq_ok_iff.1 h
  obtain ⟨attributes, -, h⟩ := bind_eq_ok_iff.1 h
  obtain ⟨operations, -, h⟩ := bind_eq_ok_iff.1 h
  obtain rfl := Except.ok.inj h
  exact ⟨hns, isAbstract, bases, rfl⟩

theorem namespaceOf_of_placeOutline {bare c : Container} {p : Placement}
    (h : bare.placeOutline p = (c, .outlineMembers)) : p.namespaceOf = .ok c.ns := by
  unfold placeOutline at h
  cases hns : p.namespaceOf with
  | ok ns =>
    rw [hns] at h
    obtain rfl := (Prod.mk.inj h).1
    rfl
  | error e =>
    rw [hns] at h
    obtain rfl : e = .outlineMembers := (Prod.mk.inj h).2
    exact absurd hns p.namespaceOf_ne_outlineMembers

/-- However a container is read, it lies in the namespace of its place. -/
theorem ReadAt.namespaceOf_eq {p : Placement} {c : Container} (h : ReadAt p c) :
    p.namespaceOf = .ok c.ns := by
  cases h with
  | ofClass h => exact (spec_of_ofClass h).1
  | ofEnum h => exact namespaceOf_of_ofEnum h
  | ofNestedEnum h => exact namespaceOf_of_ofNestedEnum h
  | placed h => exact namespaceOf_of_placeOutline h

/-- The namespace of a nested declaration is the one that is written for the outermost declaration
around it, at any depth. A container read from that one gets the same namespace cleaned, and so the
two lie in the same namespace exactly if it holds no argument and does not end in a colon. -/
theorem ns_eq_outermost_iff (p : Placement) (written : Text) (hp : p.written ≠ [])
    (houter : p.enclosing.getLast? = some (some written)) :
    p.namespaceOf = .ok written ∧
      (Placement.outermost written).namespaceOf = .ok (Namespace.clean written) ∧
      ∀ inner outer : Container, ReadAt p inner → ReadAt (.outermost written) outer →
        (inner.ns = outer.ns ↔
          ¬ Namespace.HoldsArgument written ∧ ¬ Namespace.EndsInColon written) := by
  have hinner := Placement.namespaceOf_nested hp houter
  have houtermost := Placement.namespaceOf_outermost written
  refine ⟨hinner, houtermost, fun inner outer hi ho => ?_⟩
  have hraw : written = inner.ns := Except.ok.inj (hinner.symm.trans hi.namespaceOf_eq)
  have hclean : Namespace.clean written = outer.ns :=
    Except.ok.inj (houtermost.symm.trans ho.namespaceOf_eq)
  rw [← hraw, ← hclean, ← Namespace.clean_eq_self_iff]
  exact eq_comm

/-- A class without members at a place. -/
def emptyClass (place : Placement) : ClassDecl :=
  { declarationMethod := some "class".toList, abstract := some false, template := none
    inherits := some []
    place
    properties := some { privatePart := some [], publicPart := some [], protectedPart := some [] }
    methods := some { privatePart := some [], publicPart := some [], protectedPart := some [] }
    enums := none }

/-- The place of a class that is declared two classes deep in the namespace `n::m`. -/
def twoClassesDeep : Placement :=
  { written := "n::m::A::B".toList, enclosing := [some "n::m::A".toList, some "n::m".toList] }

theorem ns_eq_outermost_plain :
    ∃ inner outer, ofClass "A::B::C".toList (emptyClass twoClassesDeep) = .ok inner ∧
      ofClass "A".toList (emptyClass (.outermost "n::m".toList)) = .ok outer ∧
      inner.ns = outer.ns := by
  obtain ⟨inner, hinner⟩ : ∃ c, ofClass "A::B::C".toList (emptyClass twoClassesDeep) = .ok c :=
    ⟨_, rfl⟩
  obtain ⟨outer, houter⟩ :
      ∃ c, ofClass "A".toList (emptyClass (.outermost "n::m".toList)) = .ok c := ⟨_, rfl⟩
  refine ⟨inner, outer, hinner, houter, ?_⟩
  have h := ns_eq_outermost_iff twoClassesDeep "n::m".toList (by decide +kernel) (by decide +kernel)
  exact (h.2.2 inner outer (.ofClass hinner) (.ofClass houter)).2 (by decide +kernel)

/-- The colons behind the namespace of a class stay in the namespace of a class inside it. -/
theorem ns_ne_outermost_colons :
    (ofClass "A::B".toList (emptyClass
        { written := "n::A".toList, enclosing := [some "n::".toList] })).map Container.ns
      = .ok "n::".toList ∧
    (ofClass "A".toList (emptyClass (.outermost "n::".toList))).map Container.ns
      = .ok "n".toList := by
  decide +kernel

end Container

end ClassDiagram
