import ClassDiagram.Proofs.Text.Sorting
import ClassDiagram.Tally
import Mathlib.Data.List.Induction
import Mathlib.Data.List.Nodup

/-!
# Counting mentions

A tally has the owners in the order of their first mention, each with one entry for every target and
kind that it mentions, in the order of their first mention, and with their number (`ofMentions_eq`,
`ofMentions_counts`). Read as a set of entries it depends only on how often each mention was made
(`mem_entries_iff`), so mentions in another order give the same entries in another order
(`entries_perm`).
-/
namespace ClassDiagram

/-- What a mention is of, and how. -/
def Mention.aim (m : Mention) : Text × LinkKind := (m.target, m.kind)

/-- What an entry counts the mentions of. -/
def Tally.Entry.aim (e : Entry) : Text × LinkKind := (e.target, e.kind)

/-- `ys` lists what stands in `xs`: each element once, in the order of their first places there. -/
structure IsRoster {α : Type} [BEq α] (xs ys : List α) : Prop where
  nodup : ys.Nodup
  mem_iff : ∀ x, x ∈ ys ↔ x ∈ xs
  order : ys.Pairwise fun x y => xs.idxOf x < xs.idxOf y

namespace Tally
open Text

/-- One entry for each aim of some mentions, in the order of first mention, with their number. -/
def entriesOf (ms : List Mention) : List Entry :=
  (ms.map Mention.aim).eraseDups.map fun a => ⟨a.1, a.2, (ms.map Mention.aim).count a⟩

theorem eraseDups_concat {α : Type} [BEq α] [LawfulBEq α] [DecidableEq α] (xs : List α) (x : α) :
    (xs ++ [x]).eraseDups = if x ∈ xs then xs.eraseDups else xs.eraseDups ++ [x] := by
  rw [List.eraseDups_append]
  by_cases hx : x ∈ xs
  · simp [hx, List.removeAll]
  · simp [hx, List.removeAll, List.eraseDups_cons]

theorem pairwise_eraseDups {α : Type} [BEq α] [LawfulBEq α] [DecidableEq α] (xs : List α) :
    xs.eraseDups.Pairwise fun x y => xs.idxOf x < xs.idxOf y := by
  induction xs using List.reverseRecOn with
  | nil => simp
  | append_singleton xs x ih =>
    have hold : xs.eraseDups.Pairwise fun y z => (xs ++ [x]).idxOf y < (xs ++ [x]).idxOf z := by
      refine ih.imp_of_mem fun hy hz hlt => ?_
      rwa [List.idxOf_append_of_mem (List.mem_eraseDups.1 hy),
        List.idxOf_append_of_mem (List.mem_eraseDups.1 hz)]
    rw [eraseDups_concat]
    split
    · exact hold
    · rename_i hx
      refine List.pairwise_append.2 ⟨hold, List.pairwise_singleton _ _, fun y hy z hz => ?_⟩
      have hmem : y ∈ xs := List.mem_eraseDups.1 hy
      obtain rfl := List.mem_singleton.1 hz
      rw [List.idxOf_append_of_mem hmem, List.idxOf_append, if_neg hx]
      exact Nat.lt_add_left _ (List.idxOf_lt_length_of_mem hmem)

theorem isRoster_eraseDups {α : Type} [BEq α] [LawfulBEq α] [DecidableEq α] (xs : List α) :
    IsRoster xs xs.eraseDups :=
  ⟨nodup_eraseDups xs, fun _ => List.mem_eraseDups, pairwise_eraseDups xs⟩

/-- Counting an aim adds one to its number, or a new entry behind the others. -/
theorem bump_map (a : Text × LinkKind) (number : Text × LinkKind → Nat)
    {aims : List (Text × LinkKind)} (haims : aims.Nodup) :
    bump a.1 a.2 (aims.map fun b => ⟨b.1, b.2, number b⟩) =
      if a ∈ aims then aims.map fun b => ⟨b.1, b.2, if b = a then number b + 1 else number b⟩
      else (aims.map fun b => ⟨b.1, b.2, number b⟩) ++ [⟨a.1, a.2, 1⟩] := by
  induction aims with
  | nil => simp [bump]
  | cons b aims ih =>
    obtain ⟨hb, hrest⟩ := List.nodup_cons.1 haims
    rw [List.map_cons, bump]
    by_cases hab : b = a
    · subst hab
      have hothers : ∀ x ∈ aims, x ≠ b := fun x hx h => hb (h ▸ hx)
      simpa using fun x hx => hothers x hx
    · have hne : ¬ (b.1 = a.1 ∧ b.2 = a.2) := fun h => hab (Prod.ext h.1 h.2)
      rw [if_neg hne, ih hrest]
      by_cases ha : a ∈ aims
      · simp [ha, hab]
      · simp [ha, Ne.symm hab]

/-- Counting a mention counts its aim for its owner, who may be new. -/
theorem add_map (m : Mention) (entries : Text → List Entry) {owners : List Text}
    (howners : owners.Nodup) :
    add m (owners.map fun o => (o, entries o)) =
      if m.owner ∈ owners then
        owners.map fun o =>
          (o, if o = m.owner then bump m.target m.kind (entries o) else entries o)
      else (owners.map fun o => (o, entries o)) ++ [(m.owner, bump m.target m.kind [])] := by
  induction owners with
  | nil => simp [add]
  | cons o owners ih =>
    obtain ⟨ho, hrest⟩ := List.nodup_cons.1 howners
    rw [List.map_cons, add]
    by_cases hom : o = m.owner
    · subst hom
      have hothers : ∀ x ∈ owners, x ≠ m.owner := fun x hx h => ho (h ▸ hx)
      simpa using fun x hx h => absurd h (hothers x hx)
    · rw [if_neg hom, ih hrest]
      by_cases hm : m.owner ∈ owners
      · simp [hm, hom]
      · simp [hm, Ne.symm hom]

theorem entriesOf_concat (ms : List Mention) (m : Mention) :
    entriesOf (ms ++ [m]) = bump m.target m.kind (entriesOf ms) := by
  have hbump := bump_map m.aim (fun a => (ms.map Mention.aim).count a)
    (nodup_eraseDups (ms.map Mention.aim))
  rw [entriesOf, entriesOf]
  change _ = bump m.aim.1 m.aim.2 _
  rw [hbump, List.map_append, List.map_singleton, eraseDups_concat]
  simp only [List.mem_eraseDups]
  by_cases hm : m.aim ∈ ms.map Mention.aim
  · simp only [hm, if_true, List.count_append, List.count_singleton]
    refine List.map_congr_left fun a _ => ?_
    by_cases ha : m.aim = a
    · simp [ha]
    · simp [ha, Ne.symm ha]
  · simp only [hm, if_false, List.map_append, List.map_singleton, List.count_append]
    have hzero : (ms.map Mention.aim).count m.aim = 0 := List.count_eq_zero.2 hm
    congr 1
    · refine List.map_congr_left fun a ha => ?_
      have hne : m.aim ≠ a := fun h => hm (h ▸ List.mem_eraseDups.1 ha)
      simp [hne]
    · simp [hzero]

theorem ofMentions_concat (ms : List Mention) (m : Mention) :
    ofMentions (ms ++ [m]) = add m (ofMentions ms) := by simp [ofMentions]

/-- The tally of some mentions: the owners in the order of first mention, each with the entries of
its own mentions. -/
theorem ofMentions_eq (ms : List Mention) :
    ofMentions ms =
      (ms.map Mention.owner).eraseDups.map fun o => (o, entriesOf (ms.filter (·.owner = o))) := by
  induction ms using List.reverseRecOn with
  | nil => rfl
  | append_singleton ms m ih =>
    have hadd := add_map m (fun o => entriesOf (ms.filter (·.owner = o)))
      (nodup_eraseDups (ms.map Mention.owner))
    rw [ofMentions_concat, ih, hadd, List.map_append, List.map_singleton, eraseDups_concat]
    simp only [List.mem_eraseDups]
    by_cases hm : m.owner ∈ ms.map Mention.owner
    · simp only [hm, if_true]
      refine List.map_congr_left fun o _ => ?_
      by_cases ho : m.owner = o
      · simp [List.filter_append, ho, entriesOf_concat]
      · simp [List.filter_append, ho, Ne.symm ho]
    · simp only [hm, if_false, List.map_append, List.map_singleton]
      congr 1
      · refine List.map_congr_left fun o ho => ?_
        have hne : m.owner ≠ o := fun h => hm (h ▸ List.mem_eraseDups.1 ho)
        simp [List.filter_append, hne]
      · have hnone : ms.filter (fun x => decide (x.owner = m.owner)) = [] := by
          rw [List.filter_eq_nil_iff]
          intro x hx h
          exact hm (List.mem_map.2 ⟨x, hx, by simpa using h⟩)
        simp [List.filter_append, hnone, entriesOf, Mention.aim, bump, List.eraseDups_cons]

theorem count_aim_filter (ms : List Mention) (o : Text) (a : Text × LinkKind) :
    ((ms.filter (·.owner = o)).map Mention.aim).count a = ms.count ⟨o, a.1, a.2⟩ := by
  induction ms with
  | nil => rfl
  | cons m ms ih =>
    rw [List.count_cons, ← ih]
    by_cases ho : m.owner = o
    · rw [List.filter_cons_of_pos (by simpa using ho), List.map_cons, List.count_cons]
      have hsame : m.aim = a ↔ m = ⟨o, a.1, a.2⟩ := by
        constructor
        · rintro rfl
          subst ho
          rfl
        · rintro rfl
          rfl
      simp only [beq_iff_eq, hsame]
    · have hne : m ≠ ⟨o, a.1, a.2⟩ := fun h => ho (by rw [h])
      rw [List.filter_cons_of_neg (by simpa using ho)]
      simp [hne]

theorem mem_entriesOf_iff {ms : List Mention} {e : Entry} :
    e ∈ entriesOf ms ↔ 0 < e.count ∧ e.count = (ms.map Mention.aim).count (e.target, e.kind) := by
  rw [entriesOf, List.mem_map]
  constructor
  · rintro ⟨a, ha, rfl⟩
    exact ⟨List.count_pos_iff.2 (List.mem_eraseDups.1 ha), rfl⟩
  · rintro ⟨hpos, hcount⟩
    have ha : (e.target, e.kind) ∈ ms.map Mention.aim := List.count_pos_iff.1 (hcount ▸ hpos)
    exact ⟨_, List.mem_eraseDups.2 ha, by rw [← hcount]⟩

/-- The entries of a tally are the mentions that were made, each with the number of times. -/
theorem mem_entries_iff {ms : List Mention} {o : Text} {e : Entry} :
    (o, e) ∈ entries (ofMentions ms) ↔ 0 < e.count ∧ e.count = ms.count ⟨o, e.target, e.kind⟩ := by
  have hentry : e ∈ entriesOf (ms.filter (·.owner = o)) ↔
      0 < e.count ∧ e.count = ms.count ⟨o, e.target, e.kind⟩ := by
    rw [mem_entriesOf_iff, count_aim_filter]
  rw [entries, ofMentions_eq, List.flatMap_map, List.mem_flatMap, ← hentry]
  constructor
  · rintro ⟨_, _, hmem⟩
    obtain ⟨_, he, h⟩ := List.mem_map.1 hmem
    obtain ⟨rfl, rfl⟩ := Prod.mk.inj h
    exact he
  · intro he
    obtain ⟨hpos, hcount⟩ := hentry.1 he
    have hm : (⟨o, e.target, e.kind⟩ : Mention) ∈ ms := List.count_pos_iff.1 (hcount ▸ hpos)
    have ho : o ∈ (ms.map Mention.owner).eraseDups :=
      List.mem_eraseDups.2 (List.mem_map.2 ⟨_, hm, rfl⟩)
    exact ⟨o, ho, List.mem_map.2 ⟨e, he, rfl⟩⟩

/-- The number of an entry is fixed by the rest of it. -/
theorem eq_of_mem_entries {ms : List Mention} {x y : Text × Entry}
    (hx : x ∈ entries (ofMentions ms)) (hy : y ∈ entries (ofMentions ms)) (howner : x.1 = y.1)
    (htarget : x.2.target = y.2.target) (hkind : x.2.kind = y.2.kind) : x = y := by
  have hcount : x.2.count = y.2.count := by
    rw [(mem_entries_iff.1 hx).2, (mem_entries_iff.1 hy).2, howner, htarget, hkind]
  obtain ⟨o, target, kind, count⟩ := x
  obtain ⟨o', target', kind', count'⟩ := y
  dsimp only at howner htarget hkind hcount
  rw [howner, htarget, hkind, hcount]

theorem nodup_entries (ms : List Mention) : (entries (ofMentions ms)).Nodup := by
  have howner : ∀ o, ((entriesOf (ms.filter (·.owner = o))).map fun e => (o, e)).Nodup := by
    intro o
    refine List.Nodup.map (fun _ _ h => (Prod.mk.inj h).2) ?_
    refine List.Nodup.map (fun a b h => ?_) (nodup_eraseDups _)
    exact Prod.ext (congrArg Entry.target h) (congrArg Entry.kind h)
  rw [entries, ofMentions_eq, List.flatMap_map, List.nodup_flatMap]
  refine ⟨fun o _ => howner o, (nodup_eraseDups _).imp fun hne => ?_⟩
  intro x hx hx'
  obtain ⟨_, _, rfl⟩ := List.mem_map.1 hx
  obtain ⟨_, _, h⟩ := List.mem_map.1 hx'
  exact hne (Prod.mk.inj h).1.symm

/-- Mentions in another order give the same entries in another order. -/
theorem entries_perm {ms ms' : List Mention} (h : ms.Perm ms') :
    (entries (ofMentions ms)).Perm (entries (ofMentions ms')) := by
  rw [List.perm_ext_iff_of_nodup (nodup_entries ms) (nodup_entries ms')]
  rintro ⟨o, e⟩
  rw [mem_entries_iff, mem_entries_iff, h.count_eq]

/-- Each mention that was made has one entry, and no other mention has any. -/
theorem filter_entries (ms : List Mention) (o target : Text) (kind : LinkKind) :
    ((entries (ofMentions ms)).filter fun x => x.1 = o ∧ x.2.target = target ∧ x.2.kind = kind) =
      if 0 < ms.count ⟨o, target, kind⟩ then [(o, ⟨target, kind, ms.count ⟨o, target, kind⟩⟩)]
      else [] := by
  have hnodup := (nodup_entries ms).filter fun x =>
    decide (x.1 = o ∧ x.2.target = target ∧ x.2.kind = kind)
  split
  · rename_i hpos
    refine List.perm_singleton.1 ((List.perm_ext_iff_of_nodup hnodup (List.nodup_singleton _)).2 ?_)
    rintro ⟨o', target', kind', count⟩
    simp only [List.mem_filter, mem_entries_iff, decide_eq_true_eq, List.mem_singleton,
      Prod.mk.injEq, Entry.mk.injEq]
    constructor
    · rintro ⟨⟨-, rfl⟩, rfl, rfl, rfl⟩
      exact ⟨rfl, rfl, rfl, rfl⟩
    · rintro ⟨rfl, rfl, rfl, rfl⟩
      exact ⟨⟨hpos, rfl⟩, rfl, rfl, rfl⟩
  · rename_i hzero
    rw [List.filter_eq_nil_iff]
    rintro ⟨o', target', kind', count⟩ hx hsame
    obtain ⟨rfl, rfl, rfl⟩ := of_decide_eq_true hsame
    obtain ⟨hpos, hcount⟩ := mem_entries_iff.1 hx
    exact hzero (hcount ▸ hpos)

theorem map_owner_ofMentions (ms : List Mention) :
    (ofMentions ms).map Prod.fst = (ms.map Mention.owner).eraseDups := by
  rw [ofMentions_eq, List.map_map]
  exact List.map_id _

theorem eq_entriesOf_of_mem {ms : List Mention} {o : Text} {es : List Entry}
    (h : (o, es) ∈ ofMentions ms) : es = entriesOf (ms.filter (·.owner = o)) := by
  rw [ofMentions_eq] at h
  obtain ⟨o', -, heq⟩ := List.mem_map.1 h
  obtain ⟨rfl, rfl⟩ := Prod.mk.inj heq
  rfl

theorem map_aim_entriesOf (ms : List Mention) :
    (entriesOf ms).map Entry.aim = (ms.map Mention.aim).eraseDups := by
  rw [entriesOf, List.map_map]
  exact List.map_id _

/-- Whatever mentions are counted, one after the other, the tally lists the owners in the order of
their first mentions. The entries of each owner list what it mentions and how, in the order of first
mentions, and each entry has the number of its mentions. -/
theorem ofMentions_counts (ms : List Mention) :
    IsRoster (ms.map Mention.owner) ((ofMentions ms).map Prod.fst) ∧
      ∀ o es, (o, es) ∈ ofMentions ms →
        IsRoster ((ms.filter (·.owner = o)).map Mention.aim) (es.map Entry.aim) ∧
          ∀ e ∈ es, e.count = ms.count ⟨o, e.target, e.kind⟩ := by
  constructor
  · rw [map_owner_ofMentions]
    exact isRoster_eraseDups _
  · intro o es hes
    obtain rfl := eq_entriesOf_of_mem hes
    constructor
    · rw [map_aim_entriesOf]
      exact isRoster_eraseDups _
    · intro e he
      obtain ⟨-, hcount⟩ := mem_entriesOf_iff.1 he
      rw [hcount, count_aim_filter]

/-- The parts of a car and of a van, with wheels of both kinds. -/
def carParts : List Mention :=
  [⟨"Car".toList, "Wheel".toList, .composition⟩, ⟨"Van".toList, "Wheel".toList, .composition⟩,
    ⟨"Car".toList, "Wheel".toList, .aggregation⟩, ⟨"Car".toList, "Wheel".toList, .composition⟩]

theorem ofMentions_counts_carParts :
    ∃ es, ("Car".toList, es) ∈ ofMentions carParts ∧ es.map Entry.count = [2, 1] ∧
      IsRoster ((carParts.filter (·.owner = "Car".toList)).map Mention.aim) (es.map Entry.aim) ∧
        ∀ e ∈ es, e.count = carParts.count ⟨"Car".toList, e.target, e.kind⟩ := by
  have hes : ("Car".toList, [⟨"Wheel".toList, .composition, 2⟩, ⟨"Wheel".toList, .aggregation, 1⟩])
      ∈ ofMentions carParts := by decide +kernel
  exact ⟨_, hes, rfl, (ofMentions_counts carParts).2 _ _ hes⟩

end Tally

end ClassDiagram
