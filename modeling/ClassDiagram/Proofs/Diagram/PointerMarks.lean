import ClassDiagram.Proofs.Diagram.Arrangement
import ClassDiagram.Proofs.Diagram.Lookup

/-!
# Which attributes are marked as pointers

An attribute whose type stands for a container is marked as an aggregation if the type holds the
name of the container by pointer. The test looks for the name and a `*` behind it, wherever they
stand. So it answers to the name as a word of its own in front of a `*`, and to a longer word there
that only ends in the name; a type such as `map<B, AB*>` is taken to hold a `B` by pointer because
it holds an `AB` so. Inside the pointer wrappers no other name is mistaken for the one in question,
since the angle brackets delimit it on both sides.
-/
namespace ClassDiagram
open Text

namespace Text

theorem occursIn_iff_isInfix {w t : Text} : occursIn w t = true ↔ w <:+: t := by
  induction t with
  | nil => simp [occursIn]
  | cons c r ih =>
    rw [occursIn, Bool.or_eq_true, ih, List.isPrefixOf_iff_prefix, List.infix_cons_iff]

/-- The word characters at the end of a text. -/
theorem exists_wordEnd (t : Text) :
    ∃ rest lead, t = rest ++ lead ∧ (∀ c ∈ lead, isWord c = true) ∧
      rest.getLast?.any isWord = false := by
  induction t using List.reverseRecOn with
  | nil => exact ⟨[], [], rfl, by simp, rfl⟩
  | append_singleton t c ih =>
    cases hc : isWord c with
    | true =>
      obtain ⟨rest, lead, rfl, hlead, hrest⟩ := ih
      refine ⟨rest, lead ++ [c], by simp, ?_, hrest⟩
      intro x hx
      rcases List.mem_append.1 hx with hx | hx
      · exact hlead x hx
      · rw [List.mem_singleton.1 hx]
        exact hc
    | false => exact ⟨t ++ [c], [], by simp, by simp, by simpa using hc⟩

end Text

namespace TypeText

/-- A text stands directly in front of a `*`, and no word character stands in front of it. -/
def Starred (w type : Text) : Prop :=
  ∃ front back, type = front ++ (w ++ '*' :: back) ∧ front.getLast?.any isWord = false

/-- A text is the argument of one of the pointer wrappers. -/
def Wrapped (w type : Text) : Prop :=
  ∃ wrapper ∈ pointerWrappers, wrapper ++ '<' :: w ++ ['>'] <:+: type

/-- A name in front of a `*` is only the end of the word that stands there. -/
def StarredWithin (name type : Text) : Prop :=
  ∃ lead, lead ≠ [] ∧ (∀ c ∈ lead, isWord c = true) ∧ Starred (lead ++ name) type

section
variable {name type : Text}

/-- A name in front of a `*` is the end of a word that begins with it or further to the left. -/
theorem isInfix_star_iff :
    name ++ ['*'] <:+: type ↔ Starred name type ∨ StarredWithin name type := by
  constructor
  · rintro ⟨front, back, rfl⟩
    obtain ⟨rest, lead, rfl, hlead, hrest⟩ := exists_wordEnd front
    have hstarred : Starred (lead ++ name) (rest ++ lead ++ (name ++ ['*']) ++ back) :=
      ⟨rest, back, by simp, hrest⟩
    by_cases hnil : lead = []
    · subst hnil
      exact .inl hstarred
    · exact .inr ⟨lead, hnil, hlead, hstarred⟩
  · rintro (⟨front, back, rfl, -⟩ | ⟨lead, -, -, front, back, rfl, -⟩)
    · exact ⟨front, back, by simp⟩
    · exact ⟨front ++ lead, back, by simp⟩

/-- What the test of a type for pointers answers to. -/
theorem holdsPointerTo_iff :
    holdsPointerTo name type = true ↔
      Starred name type ∨ Wrapped name type ∨ StarredWithin name type := by
  have hwrapped : (pointerWrappers.any fun wrapper =>
      occursIn (wrapper ++ '<' :: name ++ ['>']) type) = true ↔ Wrapped name type := by
    simp only [List.any_eq_true, occursIn_iff_isInfix, Wrapped]
  rw [holdsPointerTo, Bool.or_eq_true, occursIn_iff_isInfix, hwrapped, isInfix_star_iff]
  tauto

/-- The word around an identifier in front of a `*` is an identifier that ends in it. -/
theorem starredWithin_iff (hname : IsIdentifier name) :
    StarredWithin name type ↔
      ∃ w, IsIdentifier w ∧ w ≠ name ∧ name <:+ w ∧ Starred w type := by
  constructor
  · rintro ⟨lead, hne, hlead, hstarred⟩
    refine ⟨lead ++ name, ⟨by simp [hne], ?_⟩, by simpa using hne, List.suffix_append lead name,
      hstarred⟩
    intro c hc
    rcases List.mem_append.1 hc with hc | hc
    · exact hlead c hc
    · exact hname.2 c hc
  · rintro ⟨_, hw, hne, ⟨lead, rfl⟩, hstarred⟩
    refine ⟨lead, by simpa using hne, ?_, hstarred⟩
    intro c hc
    exact hw.2 c (List.mem_append_left name hc)

/-- Stars behind words can be found by going through the places of a text. -/
theorem starred_iff_any {w : Text} :
    Starred w type ↔ ((List.range (type.length + 1)).any fun i =>
      !(type.take i).getLast?.any isWord && (w ++ ['*']).isPrefixOf (type.drop i)) = true := by
  simp only [List.any_eq_true, Bool.and_eq_true, Bool.not_eq_true', List.isPrefixOf_iff_prefix,
    List.mem_range]
  constructor
  · rintro ⟨front, back, rfl, hfront⟩
    refine ⟨front.length, ?_, ?_, ?_⟩
    · rw [List.length_append]
      omega
    · rw [List.take_left]
      exact hfront
    · rw [List.drop_left]
      exact ⟨back, by simp⟩
  · rintro ⟨i, -, hfront, back, hback⟩
    refine ⟨type.take i, back, ?_, hfront⟩
    calc type = type.take i ++ type.drop i := (List.take_append_drop i type).symm
      _ = type.take i ++ (w ++ '*' :: back) := by rw [← hback, List.append_assoc]; rfl

instance (w type : Text) : Decidable (Starred w type) := decidable_of_iff _ starred_iff_any.symm

instance (w type : Text) : Decidable (Wrapped w type) :=
  inferInstanceAs (Decidable (∃ wrapper ∈ pointerWrappers, _))

end

end TypeText

namespace Relations
variable {objects : List Container}

theorem mention_kind_iff {c : Container} {type : Text} {m : Mention}
    (h : mention objects c type = .ok (some m)) :
    ∃ p ∈ objects, resolve .word type c.innerScope objects = .ok (some p) ∧
      m.owner = countedName c ∧ m.target = countedName p ∧
      (m.kind = .aggregation ↔ TypeText.holdsPointerTo p.name type = true) := by
  obtain ⟨found, hfound, h⟩ := bind_eq_ok_iff.1 h
  obtain ⟨p, rfl, rfl⟩ := Option.map_eq_some_iff.1 (Except.ok.inj h)
  refine ⟨p, mem_of_resolve hfound, hfound, rfl, rfl, ?_⟩
  cases TypeText.holdsPointerTo p.name type with
  | true => simp
  | false => simp

/-- The kind of an aggregation link is that of its entry. -/
theorem exists_kind_of_mem_aggregationLinks {entries : List (Text × Tally.Entry)}
    {before : Option (Endpoint × Endpoint)} {l : Link}
    (h : l ∈ (aggregationLinks objects before entries).1) : ∃ x ∈ entries, x.2.kind = l.kind := by
  induction entries generalizing before with
  | nil => simp [aggregationLinks] at h
  | cons x entries ih =>
    obtain ⟨owner, e⟩ := x
    rw [aggregationLinks] at h
    split at h
    · simp at h
    · rcases List.mem_cons.1 h with rfl | h
      · exact ⟨(owner, e), by simp, rfl⟩
      · obtain ⟨y, hy, hkind⟩ := ih h
        exact ⟨y, by simp [hy], hkind⟩

/-- The kind of an aggregation link is the mark of an attribute. -/
theorem exists_mention_of_mem_aggregation {l : Link} (h : l ∈ (aggregation objects).1) :
    ∃ c ∈ objects, ∃ type ∈ c.attributeTypes, ∃ m,
      mention objects c type = .ok (some m) ∧ m.kind = l.kind := by
  unfold aggregation at h
  dsimp only at h
  split at h
  · simp at h
  · obtain ⟨x, hx, hkind⟩ := exists_kind_of_mem_aggregationLinks h
    obtain ⟨hpos, hcount⟩ := Tally.mem_entries_iff.1 hx
    have hmention := mem_of_mem_successes (List.count_pos_iff.1 (hcount ▸ hpos))
    obtain ⟨c, hc, hmention⟩ := List.mem_flatMap.1 hmention
    obtain ⟨type, htype, hmention⟩ := List.mem_map.1 hmention
    exact ⟨c, (List.mem_filter.1 hc).1, type, htype, _, hmention, hkind⟩

end Relations

namespace Diagram
open Relations TypeText

/-- A type holds an identifier by pointer, for the test, if it stands as a whole word in front of a
`*` or alone in a pointer wrapper, or if another identifier stands in front of a `*` that is longer
and ends in it. An attribute is marked as an aggregation exactly if this is so of its type and the
container found for it, and every link of this kind is owed to an attribute with that mark. -/
theorem buildAggregation_pointers (d : Diagram) :
    (∀ name type, IsIdentifier name →
      (holdsPointerTo name type = true ↔ Starred name type ∨ Wrapped name type ∨
        ∃ w, IsIdentifier w ∧ w ≠ name ∧ name <:+ w ∧ Starred w type)) ∧
    (∀ c ∈ d.objects, ∀ type ∈ c.attributeTypes, ∀ m, mention d.objects c type = .ok (some m) →
      ∃ p ∈ d.objects, resolve .word type c.innerScope d.objects = .ok (some p) ∧
        m.owner = countedName c ∧ m.target = countedName p ∧
        (m.kind = .aggregation ↔
          Starred p.name type ∨ Wrapped p.name type ∨ StarredWithin p.name type)) ∧
    ∀ l ∈ d.buildAggregation.1.aggregation, ∃ c ∈ d.objects, ∃ type ∈ c.attributeTypes, ∃ m,
      mention d.objects c type = .ok (some m) ∧ m.kind = l.kind := by
  refine ⟨fun name type hname => ?_, fun c _ type _ m hm => ?_, fun l hl => ?_⟩
  · rw [holdsPointerTo_iff, starredWithin_iff hname]
  · obtain ⟨p, hp, hfound, howner, htarget, hkind⟩ := mention_kind_iff hm
    exact ⟨p, hp, hfound, howner, htarget, hkind.trans holdsPointerTo_iff⟩
  · exact exists_mention_of_mem_aggregation hl

def ring (types : List Text) : Container :=
  { classNamed "Ring".toList [] with members := types.map Rearranged.held }

/-- A ring and two more classes, of which the name of one ends that of the other. -/
def keyring (types : List Text) : Diagram :=
  { objects := [ring types, classNamed "Key".toList [], classNamed "MonKey".toList []] }

/-- A `Key*` is marked as a pointer to a `Key`, and rightly so. -/
theorem buildAggregation_pointers_keyring :
    (keyring ["Key*".toList]).buildAggregation.1.aggregation =
      [.aggregates ⟨"Ring".toList, []⟩ ⟨"Key".toList, []⟩ 1 .aggregation] ∧
    mention (keyring ["Key*".toList]).objects (ring ["Key*".toList]) "Key*".toList =
      .ok (some ⟨"Ring".toList, "Key".toList, .aggregation⟩) ∧
    ∃ p ∈ (keyring ["Key*".toList]).objects, "Key".toList = countedName p ∧
      (Starred p.name "Key*".toList ∨ Wrapped p.name "Key*".toList ∨
        StarredWithin p.name "Key*".toList) := by
  have hmention : mention (keyring ["Key*".toList]).objects (ring ["Key*".toList]) "Key*".toList =
      .ok (some ⟨"Ring".toList, "Key".toList, .aggregation⟩) := by decide +kernel
  obtain ⟨p, hp, -, -, htarget, hkind⟩ := (buildAggregation_pointers (keyring ["Key*".toList])).2.1
    (ring ["Key*".toList]) (List.mem_cons_self ..) "Key*".toList (List.mem_cons_self ..) _ hmention
  exact ⟨by decide +kernel, hmention, p, hp, htarget, hkind.1 rfl⟩

/-- A `MonKey*` is taken for a pointer to a `Key`, so a map of keys by value is marked as one of
pointers to keys. -/
theorem buildAggregation_mistakes_key :
    holdsPointerTo "Key".toList "MonKey*".toList = true ∧
    ¬ Starred "Key".toList "MonKey*".toList ∧ ¬ Wrapped "Key".toList "MonKey*".toList ∧
    (keyring ["map<Key, MonKey*>".toList]).buildAggregation.1.aggregation =
      [.aggregates ⟨"Ring".toList, []⟩ ⟨"Key".toList, []⟩ 1 .aggregation] ∧
    ¬ Starred "Key".toList "map<Key, MonKey*>".toList ∧
    ¬ Wrapped "Key".toList "map<Key, MonKey*>".toList := by
  decide +kernel

end Diagram

end ClassDiagram
