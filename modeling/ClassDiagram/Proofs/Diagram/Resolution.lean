import ClassDiagram.Proofs.Attempt
import ClassDiagram.Proofs.Diagram.Naming

/-!
# What names resolve to

Resolution gives one of the containers, whatever their names are. If the names can be searched for,
it never fails, and `Resolve.outward_eq` says what it gives: the scopes around a name are tried from
the innermost outwards, and in the first one with a match the leftmost match wins, of several at one
place the first.

Resolution reads nothing of a container but its name and its namespace. If the names are identifiers
joined by `::`, two matches at one place are the same word, so the name and the namespace of the
result do not depend on the order of the containers (`resolve_endpoint_congr`).
-/
namespace ClassDiagram
open Text

namespace Resolve

/-- The choice is the first of those with the least number. -/
theorem firstLeast_spec {α : Type} (best : α × Nat) (xs : List (α × Nat)) :
    ∃ front x back, best :: xs = front ++ x :: back ∧ firstLeast best xs = x.1 ∧
      (∀ y ∈ front, x.2 < y.2) ∧ ∀ y ∈ back, x.2 ≤ y.2 := by
  induction xs generalizing best with
  | nil => exact ⟨[], best, [], rfl, rfl, by simp, by simp⟩
  | cons x xs ih =>
    rw [firstLeast]
    split
    · rename_i hlt
      obtain ⟨front, z, back, hsplit, hz, hfront, hback⟩ := ih x
      refine ⟨best :: front, z, back, by simp [hsplit], hz, ?_, hback⟩
      have hzx : z.2 ≤ x.2 := by
        have hx : x ∈ front ++ z :: back := by simp [← hsplit]
        rcases List.mem_append.1 hx with hx | hx
        · exact Nat.le_of_lt (hfront x hx)
        · rcases List.mem_cons.1 hx with rfl | hx
          · exact Nat.le_refl _
          · exact hback x hx
      intro y hy
      rcases List.mem_cons.1 hy with rfl | hy
      · omega
      · exact hfront y hy
    · rename_i hle
      obtain ⟨front, z, back, hsplit, hz, hfront, hback⟩ := ih best
      cases front with
      | nil =>
        obtain ⟨rfl, rfl⟩ : best = z ∧ xs = back := by simpa using hsplit
        refine ⟨[], best, x :: xs, rfl, hz, by simp, ?_⟩
        intro y hy
        rcases List.mem_cons.1 hy with rfl | hy
        · omega
        · exact hback y hy
      | cons b front =>
        obtain ⟨rfl, rfl⟩ : best = b ∧ xs = front ++ z :: back := by simpa using hsplit
        refine ⟨best :: x :: front, z, back, by simp, hz, ?_, hback⟩
        have hbest := hfront best (by simp)
        intro y hy
        simp only [List.mem_cons] at hy
        rcases hy with rfl | rfl | hy
        · exact hbest
        · omega
        · exact hfront y (by simp [hy])

section
variable {cmp : Comparison} {written : Text} {scope : List Text} {objects : List Container}

theorem candidates_sublist {cs : List Container}
    (h : candidates cmp written scope objects = .ok cs) : cs.Sublist objects := by
  induction objects generalizing cs with
  | nil =>
    obtain rfl : cs = [] := by simpa [candidates, eq_comm] using h
    exact .slnil
  | cons c objects ih =>
    rw [candidates] at h
    obtain ⟨found, -, h⟩ := bind_eq_ok_iff.1 h
    obtain ⟨rest, hrest, h⟩ := bind_eq_ok_iff.1 h
    have hsub := ih hrest
    cases found with
    | true =>
      obtain rfl : c :: rest = cs := by simpa using h
      exact hsub.cons_cons c
    | false =>
      obtain rfl : rest = cs := by simpa using h
      exact hsub.cons c

theorem isCandidate_of_mem_candidates {cs : List Container} {c : Container}
    (h : candidates cmp written scope objects = .ok cs) (hc : c ∈ cs) :
    isCandidate cmp written scope c = .ok true := by
  induction objects generalizing cs with
  | nil =>
    obtain rfl : cs = [] := by simpa [candidates, eq_comm] using h
    simp at hc
  | cons d objects ih =>
    rw [candidates] at h
    obtain ⟨found, hfound, h⟩ := bind_eq_ok_iff.1 h
    obtain ⟨rest, hrest, h⟩ := bind_eq_ok_iff.1 h
    cases found with
    | true =>
      obtain rfl : d :: rest = cs := by simpa using h
      rcases List.mem_cons.1 hc with rfl | hc
      · exact hfound
      · exact ih hrest hc
    | false =>
      obtain rfl : rest = cs := by simpa using h
      exact ih hrest hc

theorem mem_of_choose {cs : List Container} {c : Container}
    (h : choose written cs = .ok (some c)) : c ∈ cs := by
  match cs, h with
  | [d], h =>
    obtain rfl : d = c := by simpa [choose] using h
    simp
  | d :: e :: r, h =>
    rw [choose] at h
    obtain ⟨i, -, h⟩ := bind_eq_ok_iff.1 h
    obtain ⟨rest, hrest, h⟩ := bind_eq_ok_iff.1 h
    obtain ⟨front, x, back, hsplit, hx, -, -⟩ := firstLeast_spec (d, i) rest
    obtain rfl : x.1 = c := by simpa [hx] using h
    have hmem : x ∈ (d, i) :: rest := by simp [hsplit]
    rcases List.mem_cons.1 hmem with rfl | hmem
    · simp
    · obtain ⟨y, hy, hxy⟩ := exists_of_mem_mapM hrest hmem
      obtain ⟨j, -, hxy⟩ := bind_eq_ok_iff.1 hxy
      obtain rfl : (y, j) = x := by simpa using hxy
      exact List.mem_cons_of_mem d hy

/-- What a search outwards finds is a candidate in one of the scopes. -/
theorem exists_candidates_of_outward {n : Nat} {c : Container}
    (h : outward cmp written scope objects n = .ok (some c)) :
    ∃ around cs, candidates cmp written around objects = .ok cs ∧ c ∈ cs := by
  induction n with
  | zero =>
    rw [outward] at h
    obtain ⟨cs, hcs, h⟩ := bind_eq_ok_iff.1 h
    exact ⟨[], cs, hcs, mem_of_choose h⟩
  | succ n ih =>
    rw [outward] at h
    obtain ⟨cs, hcs, h⟩ := bind_eq_ok_iff.1 h
    cases cs with
    | nil => exact ih h
    | cons d cs => exact ⟨_, _, hcs, mem_of_choose h⟩

theorem mem_of_outward {n : Nat} {c : Container}
    (h : outward cmp written scope objects n = .ok (some c)) : c ∈ objects := by
  obtain ⟨_, cs, hcs, hc⟩ := exists_candidates_of_outward h
  exact (candidates_sublist hcs).mem hc

end

end Resolve

/-- What a name resolves to is one of the containers. -/
theorem mem_of_resolve {cmp : Comparison} {name : Text} {scope : List Text}
    {objects : List Container} {c : Container}
    (h : resolve cmp name scope objects = .ok (some c)) : c ∈ objects :=
  Resolve.mem_of_outward h

namespace Resolve

/-- Where a name first stands in a written text as a whole word. -/
def place (written name : Text) : Option Nat :=
  (List.range (written.length + 1)).find? (Pattern.wordAt name written)

/-- Whether a written text fits a name. -/
def fits (cmp : Comparison) (written name : Text) : Bool :=
  match cmp with
  | .equal => written = name
  | .word => (place written name).isSome

/-- The containers of a scope whose names fit. -/
def matching (cmp : Comparison) (written : Text) (scope : List Text) (objects : List Container) :
    List Container :=
  objects.filter fun c => decide (scope = c.scope) && fits cmp written c.name

/-- The leftmost of some containers in a written text, and of several at one place the first. -/
def IsChoice (written : Text) (cs : List Container) (c : Container) : Prop :=
  ∃ front back, cs = front ++ c :: back ∧
    (∀ d ∈ front, (place written c.name).getD 0 < (place written d.name).getD 0) ∧
    ∀ d ∈ back, (place written c.name).getD 0 ≤ (place written d.name).getD 0

section
variable {cmp : Comparison} {written name : Text}

theorem occurrence_eq (h : ∀ c ∈ name, Pattern.isLiteral c = true) :
    occurrence name written = .ok (place written name) := by
  rw [occurrence, Pattern.occurrence_eq h]
  rfl

theorem compare_eq (h : ∀ c ∈ name, Pattern.isLiteral c = true) :
    compare cmp written name = .ok (fits cmp written name) := by
  cases cmp with
  | equal => rfl
  | word => simp [compare, occurrence_eq h, fits]

theorem wordAt_of_place {i : Nat} (h : place written name = some i) :
    Pattern.wordAt name written i = true := List.find?_some h

theorem isInfix_of_fits (h : fits cmp written name = true) : name <:+: written := by
  cases cmp with
  | equal =>
    obtain rfl : written = name := by simpa [fits] using h
    exact List.infix_rfl
  | word =>
    obtain ⟨i, hi⟩ := Option.isSome_iff_exists.1 h
    exact Pattern.isInfix_of_wordAt (wordAt_of_place hi)

theorem isIdentifier_of_fits (hname : IsQualified name) (hwritten : ¬ colons <:+: written)
    (h : fits cmp written name = true) : IsIdentifier name :=
  hname.isIdentifier_of_not_colons fun hc => hwritten (hc.trans (isInfix_of_fits h))

theorem wordAt_self (h : HasWordEnds name) : Pattern.wordAt name name 0 = true := by
  obtain ⟨hhead, hlast⟩ := h
  simp [Pattern.wordAt, Pattern.wordHere, isEdge, hhead, hlast]

/-- A name that fits stands somewhere as a whole word. -/
theorem place_isSome_of_fits (hname : HasWordEnds name) (h : fits cmp written name = true) :
    ∃ i, place written name = some i := by
  cases cmp with
  | equal =>
    obtain rfl : written = name := by simpa [fits] using h
    rw [← Option.isSome_iff_exists, place, List.find?_isSome]
    exact ⟨0, by simp, wordAt_self hname⟩
  | word => exact Option.isSome_iff_exists.1 h

end

section
variable {cmp : Comparison} {written : Text} {objects : List Container}

theorem isCandidate_eq {c : Container} (hc : c.IsLiteral) (hwritten : ¬ colons <:+: written)
    (scope : List Text) :
    isCandidate cmp written scope c =
      .ok (decide (scope = c.scope) && fits cmp written c.name) := by
  unfold isCandidate
  by_cases hscope : scope = c.scope
  · rw [if_neg (by simpa using hscope), compare_eq hc.name,
      compare_eq hc.qualifiedName]
    cases hfits : fits cmp written c.name with
    | true => simp [hscope]
    | false =>
      -- A qualified name with a namespace has `::` in it, so only the bare name can fit.
      have hqualified : fits cmp written c.qualifiedName = false := by
        by_cases hns : c.ns = []
        · simpa [Container.qualifiedName, hns] using hfits
        · refine Bool.eq_false_iff.2 fun h => hwritten ?_
          refine List.IsInfix.trans ?_ (isInfix_of_fits h)
          rw [Container.qualifiedName, if_neg hns]
          exact List.infix_append c.ns colons c.name
      simp [hqualified]
  · rw [if_pos hscope]
    simp [hscope]

theorem candidates_eq (hobjects : ∀ c ∈ objects, c.IsLiteral) (hwritten : ¬ colons <:+: written)
    (scope : List Text) :
    candidates cmp written scope objects = .ok (matching cmp written scope objects) := by
  induction objects with
  | nil => rfl
  | cons c objects ih =>
    have hc : c.IsLiteral := hobjects c (by simp)
    rw [candidates, isCandidate_eq hc hwritten, ih fun d hd => hobjects d (by simp [hd])]
    simp only [ok_bind, pure_eq_ok, matching, List.filter_cons]

theorem position_eq {c : Container} (hc : c.IsSearchable) (hfits : fits cmp written c.name = true) :
    position written c = .ok ((place written c.name).getD 0) := by
  obtain ⟨i, hi⟩ := place_isSome_of_fits hc.ends hfits
  simp [position, occurrence_eq hc.name, hi]

/-- Among matches the leftmost is chosen. -/
theorem choose_eq {cs : List Container}
    (hcs : ∀ c ∈ cs, c.IsSearchable ∧ fits cmp written c.name = true) (hne : cs ≠ []) :
    ∃ c, choose written cs = .ok (some c) ∧ IsChoice written cs c := by
  match cs, hne with
  | [c], _ => exact ⟨c, rfl, [], [], rfl, by simp, by simp⟩
  | c :: d :: r, _ =>
    have hplace : ∀ x ∈ c :: d :: r, position written x = .ok ((place written x.name).getD 0) :=
      fun x hx => position_eq (hcs x hx).1 (hcs x hx).2
    have hrest : ((d :: r).mapM fun x => return (x, ← position written x)) =
        .ok ((d :: r).map fun x => (x, (place written x.name).getD 0)) :=
      mapM_eq_ok fun x hx => by simp [hplace x (by simp [List.mem_cons.1 hx])]
    obtain ⟨front, x, back, hsplit, hx, hfront, hback⟩ :=
      firstLeast_spec (c, (place written c.name).getD 0)
        ((d :: r).map fun x => (x, (place written x.name).getD 0))
    rw [← List.map_cons (f := fun x : Container => (x, (place written x.name).getD 0)),
      List.map_eq_append_iff] at hsplit
    obtain ⟨cs₁, cs₂, hcs', rfl, hmap⟩ := hsplit
    obtain ⟨y, cs₃, rfl, rfl, rfl⟩ := List.map_eq_cons_iff.1 hmap
    refine ⟨y, ?_, cs₁, cs₃, hcs', ?_, ?_⟩
    · rw [choose, hplace c (by simp), hrest]
      simp only [ok_bind, pure_eq_ok, hx]
    · intro e he
      exact hfront _ (List.mem_map_of_mem he)
    · intro e he
      exact hback _ (List.mem_map_of_mem he)

/-- The scopes are tried from the innermost outwards. -/
theorem outward_eq (cmp : Comparison) (hobjects : ∀ c ∈ objects, c.IsSearchable)
    (hwritten : ¬ colons <:+: written) (scope : List Text) (n : Nat) :
    (outward cmp written scope objects n = .ok none ∧
      ∀ m ≤ n, matching cmp written (scope.take m) objects = []) ∨
    ∃ m ≤ n, ∃ c, outward cmp written scope objects n = .ok (some c) ∧
      IsChoice written (matching cmp written (scope.take m) objects) c ∧
      ∀ k, m < k → k ≤ n → matching cmp written (scope.take k) objects = [] := by
  have hmatching : ∀ scope, ∀ c ∈ matching cmp written scope objects,
      c.IsSearchable ∧ fits cmp written c.name = true := by
    intro scope c hc
    obtain ⟨hc, hfits⟩ := List.mem_filter.1 hc
    exact ⟨hobjects c hc, (Bool.and_eq_true _ _ ▸ hfits).2⟩
  have hliteral : ∀ c ∈ objects, c.IsLiteral := fun c hc => (hobjects c hc).toIsLiteral
  induction n with
  | zero =>
    rw [outward, candidates_eq hliteral hwritten, ok_bind]
    by_cases hnil : matching cmp written [] objects = []
    · refine .inl ⟨by rw [hnil]; rfl, ?_⟩
      intro m hm
      obtain rfl : m = 0 := by omega
      simpa using hnil
    · obtain ⟨c, hc, hchoice⟩ := choose_eq (hmatching []) hnil
      exact .inr ⟨0, by omega, c, hc, by simpa using hchoice, by omega⟩
  | succ n ih =>
    rw [outward, candidates_eq hliteral hwritten, ok_bind]
    cases hcs : matching cmp written (scope.take (n + 1)) objects with
    | nil =>
      rcases ih with ⟨hnone, hempty⟩ | ⟨m, hm, c, hc, hchoice, hempty⟩
      · refine .inl ⟨hnone, ?_⟩
        intro m hm
        rcases Nat.lt_or_eq_of_le hm with hm | rfl
        · exact hempty m (by omega)
        · exact hcs
      · refine .inr ⟨m, by omega, c, hc, hchoice, ?_⟩
        intro k hmk hk
        rcases Nat.lt_or_eq_of_le hk with hk | rfl
        · exact hempty k hmk (by omega)
        · exact hcs
    | cons d cs =>
      have hne : matching cmp written (scope.take (n + 1)) objects ≠ [] := by simp [hcs]
      obtain ⟨c, hc, hchoice⟩ := choose_eq (hmatching _) hne
      rw [hcs] at hc
      exact .inr ⟨n + 1, by omega, c, hc, hchoice, by omega⟩

end

section
variable {reason : Fault → Prop} {cmp : Comparison} {written : Text} {objects : List Container}

theorem choose_failsOnly {cs : List Container}
    (hposition : ∀ c ∈ cs, FailsOnly reason (position written c)) :
    FailsOnly reason (choose written cs) := by
  match cs, hposition with
  | [], _ => exact .ok none
  | [c], _ => exact .ok (some c)
  | c :: d :: r, hposition =>
    refine (hposition c (by simp)).bind fun i _ => ?_
    refine (FailsOnly.mapM fun x hx => ?_).bind fun rest _ => .ok _
    exact (hposition x (by simp [List.mem_cons.1 hx])).bind fun j _ => .ok _

theorem outward_failsOnly
    (hcandidates : ∀ scope, FailsOnly reason (candidates cmp written scope objects))
    (hposition : ∀ scope cs, candidates cmp written scope objects = .ok cs →
      ∀ c ∈ cs, FailsOnly reason (position written c)) (scope : List Text) (n : Nat) :
    FailsOnly reason (outward cmp written scope objects n) := by
  induction n with
  | zero =>
    rw [outward]
    exact (hcandidates _).bind fun cs hcs => choose_failsOnly (hposition _ cs hcs)
  | succ n ih =>
    rw [outward]
    refine (hcandidates _).bind fun cs hcs => ?_
    cases cs with
    | nil => exact ih
    | cons d cs => exact choose_failsOnly (hposition _ _ hcs)

/-- What can go wrong in a search: the name is no pattern, or it does not occur. -/
def IsSearchFault (f : Fault) : Prop := (∃ p, f = .pattern p) ∨ f = .noOccurrence

theorem occurrence_failsOnly (name t : Text) : FailsOnly IsSearchFault (occurrence name t) := by
  intro f hf
  rw [occurrence] at hf
  cases hfound : Pattern.occurrence name t with
  | ok found => simp [hfound] at hf
  | error p =>
    rw [hfound] at hf
    exact .inl ⟨p, (Except.error.inj hf).symm⟩

theorem candidates_failsOnly (scope : List Text) :
    FailsOnly IsSearchFault (candidates cmp written scope objects) := by
  have hcompare : ∀ name, FailsOnly IsSearchFault (compare cmp written name) := by
    intro name
    cases cmp with
    | equal => exact .ok _
    | word => exact (occurrence_failsOnly _ _).bind fun found _ => .ok _
  induction objects with
  | nil => exact .ok _
  | cons c objects ih =>
    have hcandidate : FailsOnly IsSearchFault (isCandidate cmp written scope c) := by
      rw [isCandidate]
      split
      · exact .ok _
      · refine (hcompare c.name).bind fun found _ => ?_
        split
        · exact .ok _
        · exact hcompare c.qualifiedName
    exact hcandidate.bind fun found _ => ih.bind fun rest _ => .ok _

theorem position_failsOnly (c : Container) : FailsOnly IsSearchFault (position written c) := by
  refine (occurrence_failsOnly _ _).bind fun found _ => ?_
  cases found with
  | none =>
    intro f hf
    exact .inr (Except.error.inj hf).symm
  | some i => exact .ok i

/-- The only reason for which a choice among matches of literal names fails: a name does not stand
in itself. -/
def NotFound (objects : List Container) (f : Fault) : Prop :=
  f = .noOccurrence ∧ ∃ c ∈ objects, ¬ HasWordEnds c.name

theorem position_notFound {c : Container} (hc : c.IsLiteral)
    (hfits : fits cmp written c.name = true) (hmem : c ∈ objects) :
    FailsOnly (NotFound objects) (position written c) := by
  intro f hf
  rw [position, occurrence_eq hc.name, ok_bind] at hf
  split at hf
  · rename_i hnone
    refine ⟨(Except.error.inj hf).symm, c, hmem, fun hends => ?_⟩
    obtain ⟨i, hi⟩ := place_isSome_of_fits hends hfits
    simp [hi] at hnone
  · simp at hf

theorem outward_notFound (hobjects : ∀ c ∈ objects, c.IsLiteral) (hwritten : ¬ colons <:+: written)
    (scope : List Text) (n : Nat) :
    FailsOnly (NotFound objects) (outward cmp written scope objects n) := by
  refine outward_failsOnly (fun scope => ?_) (fun scope cs hcs c hc => ?_) scope n
  · rw [candidates_eq hobjects hwritten]
    exact .ok _
  · rw [candidates_eq hobjects hwritten] at hcs
    obtain rfl := Except.ok.inj hcs
    obtain ⟨hmem, hfits⟩ := List.mem_filter.1 hc
    exact position_notFound (hobjects c hmem) (Bool.and_eq_true _ _ ▸ hfits).2 hmem

end

section
variable {cmp : Comparison} {written : Text} {scope : List Text} {objects objects' : List Container}

theorem IsChoice.mem {cs : List Container} {c : Container} (h : IsChoice written cs c) :
    c ∈ cs := by
  obtain ⟨front, back, rfl, -, -⟩ := h
  simp

theorem IsChoice.ne_nil {cs : List Container} {c : Container} (h : IsChoice written cs c) :
    cs ≠ [] := List.ne_nil_of_mem h.mem

theorem IsChoice.le {cs : List Container} {c d : Container} (h : IsChoice written cs c)
    (hd : d ∈ cs) : (place written c.name).getD 0 ≤ (place written d.name).getD 0 := by
  obtain ⟨front, back, rfl, hfront, hback⟩ := h
  rcases List.mem_append.1 hd with hd | hd
  · exact Nat.le_of_lt (hfront d hd)
  · rcases List.mem_cons.1 hd with rfl | hd
    · exact Nat.le_refl _
    · exact hback d hd

/-- A match has its counterpart among all containers with the same endpoints. -/
theorem exists_matching (h : objects.map Container.endpoint ⊆ objects'.map Container.endpoint)
    {c : Container} (hc : c ∈ matching cmp written scope objects) :
    ∃ d ∈ matching cmp written scope objects', d.endpoint = c.endpoint := by
  obtain ⟨hc, hfits⟩ := List.mem_filter.1 hc
  obtain ⟨d, hd, hdc⟩ := List.mem_map.1 (h (List.mem_map_of_mem hc))
  refine ⟨d, List.mem_filter.2 ⟨hd, ?_⟩, hdc⟩
  have hname : d.name = c.name := congrArg Endpoint.name hdc
  have hscope : d.scope = c.scope := by
    rw [Container.scope, Container.scope, Container.qualifiedName_congr hdc]
  rw [hname, hscope]
  exact hfits

theorem matching_eq_nil (h : objects.map Container.endpoint ⊆ objects'.map Container.endpoint)
    (hnil : matching cmp written scope objects' = []) :
    matching cmp written scope objects = [] := by
  rw [List.eq_nil_iff_forall_not_mem]
  intro c hc
  obtain ⟨d, hd, -⟩ := exists_matching h hc
  simp [hnil] at hd

/-- Two matches of one scope at one place have the same name and namespace. -/
theorem endpoint_eq_of_place_eq {c d : Container} (hc : c.IsNamed) (hd : d.IsNamed)
    (hwritten : ¬ colons <:+: written) (hcfits : fits cmp written c.name = true)
    (hdfits : fits cmp written d.name = true) (hscope : c.scope = d.scope)
    (hplace : (place written c.name).getD 0 = (place written d.name).getD 0) :
    c.endpoint = d.endpoint := by
  have hcid := isIdentifier_of_fits hc.name hwritten hcfits
  have hdid := isIdentifier_of_fits hd.name hwritten hdfits
  obtain ⟨i, hi⟩ := place_isSome_of_fits hcid.hasWordEnds hcfits
  obtain ⟨j, hj⟩ := place_isSome_of_fits hdid.hasWordEnds hdfits
  obtain rfl : i = j := by simpa [hi, hj] using hplace
  have hname : c.name = d.name :=
    Pattern.eq_of_wordAt hcid hdid (wordAt_of_place hi) (wordAt_of_place hj)
  exact Container.endpoint_eq_of_scope hc hd hname hscope

theorem IsChoice.endpoint_eq {c c' : Container} (hobjects : ∀ c ∈ objects, c.IsNamed)
    (hobjects' : ∀ c ∈ objects', c.IsNamed) (hwritten : ¬ colons <:+: written)
    (h : objects.map Container.endpoint ⊆ objects'.map Container.endpoint)
    (h' : objects'.map Container.endpoint ⊆ objects.map Container.endpoint)
    (hc : IsChoice written (matching cmp written scope objects) c)
    (hc' : IsChoice written (matching cmp written scope objects') c') :
    c.endpoint = c'.endpoint := by
  obtain ⟨hmem, hfits⟩ := List.mem_filter.1 hc.mem
  obtain ⟨hmem', hfits'⟩ := List.mem_filter.1 hc'.mem
  rw [Bool.and_eq_true, decide_eq_true_eq] at hfits hfits'
  obtain ⟨d, hd, hdc⟩ := exists_matching h hc.mem
  obtain ⟨d', hd', hdc'⟩ := exists_matching h' hc'.mem
  have hle := hc.le hd'
  have hle' := hc'.le hd
  rw [show d'.name = c'.name from congrArg Endpoint.name hdc'] at hle
  rw [show d.name = c.name from congrArg Endpoint.name hdc] at hle'
  exact endpoint_eq_of_place_eq (hobjects c hmem) (hobjects' c' hmem') hwritten hfits.2 hfits'.2
    (hfits.1.symm.trans hfits'.1) (Nat.le_antisymm hle hle')

end

end Resolve

theorem not_colons_isInfix_getLast (name : Text) :
    ¬ colons <:+: name.components.getLast?.getD [] := by
  rw [List.getLast?_eq_some_getLast (components_ne_nil name), Option.getD_some]
  exact not_colons_isInfix_of_mem (List.getLast_mem (components_ne_nil name))

/-- Resolution fails only in a search, because a name holds signs of patterns or does not stand in
itself. -/
theorem resolve_failsOnly (cmp : Comparison) (name : Text) (scope : List Text)
    (objects : List Container) :
    FailsOnly
      (fun f => (Resolve.IsSearchFault f ∧ ∃ c ∈ objects, ¬ c.IsLiteral) ∨
        Resolve.NotFound objects f)
      (resolve cmp name scope objects) := by
  by_cases hobjects : ∀ c ∈ objects, c.IsLiteral
  · exact (Resolve.outward_notFound hobjects (not_colons_isInfix_getLast name) _ _).mono
      fun f hf => .inr hf
  · have hsign : ∃ c ∈ objects, ¬ c.IsLiteral := by simpa using hobjects
    exact (Resolve.outward_failsOnly (fun _ => Resolve.candidates_failsOnly _)
      (fun _ _ _ c _ => Resolve.position_failsOnly c) _ _).mono fun f hf => .inl ⟨hf, hsign⟩

/-- Among containers named by identifiers resolution never fails, and the endpoint of what it gives
depends only on which endpoints there are. -/
theorem resolve_endpoint_congr (cmp : Comparison) (name : Text) (scope : List Text)
    {objects objects' : List Container} (hobjects : ∀ c ∈ objects, c.IsNamed)
    (hobjects' : ∀ c ∈ objects', c.IsNamed)
    (h : objects.map Container.endpoint ⊆ objects'.map Container.endpoint)
    (h' : objects'.map Container.endpoint ⊆ objects.map Container.endpoint) :
    ∃ found found', resolve cmp name scope objects = .ok found ∧
      resolve cmp name scope objects' = .ok found' ∧
      found.map Container.endpoint = found'.map Container.endpoint := by
  have hwritten := not_colons_isInfix_getLast name
  have hsearch : ∀ c ∈ objects, c.IsSearchable := fun c hc => (hobjects c hc).isSearchable
  have hsearch' : ∀ c ∈ objects', c.IsSearchable := fun c hc => (hobjects' c hc).isSearchable
  unfold resolve
  dsimp only
  generalize name.components.getLast?.getD [] = written at hwritten ⊢
  generalize scope ++ name.components.dropLast = around
  rcases Resolve.outward_eq cmp hsearch hwritten around around.length with
    ⟨hnone, hempty⟩ | ⟨m, hm, c, hc, hchoice, hempty⟩
  all_goals rcases Resolve.outward_eq cmp hsearch' hwritten around around.length with
    ⟨hnone', hempty'⟩ | ⟨m', hm', c', hc', hchoice', hempty'⟩
  · exact ⟨none, none, hnone, hnone', rfl⟩
  · exact absurd (Resolve.matching_eq_nil h' (hempty m' hm')) hchoice'.ne_nil
  · exact absurd (Resolve.matching_eq_nil h (hempty' m hm)) hchoice.ne_nil
  · obtain rfl : m = m' := by
      rcases Nat.lt_trichotomy m m' with hlt | heq | hlt
      · exact absurd (Resolve.matching_eq_nil h' (hempty m' hlt hm')) hchoice'.ne_nil
      · exact heq
      · exact absurd (Resolve.matching_eq_nil h (hempty' m hlt hm)) hchoice.ne_nil
    refine ⟨some c, some c', hc, hc', ?_⟩
    exact congrArg some (hchoice.endpoint_eq hobjects hobjects' hwritten h h' hchoice')

end ClassDiagram
