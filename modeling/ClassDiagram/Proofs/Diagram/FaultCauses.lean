import ClassDiagram.Proofs.Diagram.Reproduction

/-!
# Why the building of links stops

Links are built by looking names up, and then by looking up the names under which aggregations were
counted. Names are searched for as patterns, so a name with signs of patterns in it may stop the
search. If there is no such name, what is left is a name that cannot be found in itself because no
word character stands at one of its ends, and a container that was counted under another name than
its own because one of its components is empty. No other fault occurs, so all links are built from
names without these three blemishes.
-/
namespace ClassDiagram
open Text

/-- How the names of containers can give rise to a fault of link building. -/
inductive NameBlemish (objects : List Container) : Fault → Prop where
  /-- A name or namespace holds a sign of patterns, and a search goes wrong. -/
  | sign {c : Container} (hc : c ∈ objects) (hsign : ¬ c.IsLiteral) {f : Fault}
    (hf : Resolve.IsSearchFault f) : NameBlemish objects f
  /-- A name has no word character at one of its ends. -/
  | ends {c : Container} (hc : c ∈ objects) (hends : ¬ HasWordEnds c.name) :
    NameBlemish objects .noOccurrence
  /-- A name or namespace has an empty component, and no pair was counted before. -/
  | unset {c : Container} (hc : c ∈ objects) (hproper : ¬ c.IsProper) :
    NameBlemish objects .unsetPair
  /-- A name or namespace has an empty component. -/
  | unlisted {c : Container} (hc : c ∈ objects) (hproper : ¬ c.IsProper) (name : Text) :
    NameBlemish objects (.unlisted name)

namespace Relations
variable {objects : List Container} {f : Fault}

theorem resolve_failsOnly (cmp : Comparison) (name : Text) (scope : List Text) :
    FailsOnly (NameBlemish objects) (resolve cmp name scope objects) := by
  refine (ClassDiagram.resolve_failsOnly cmp name scope objects).mono ?_
  rintro f (⟨hf, c, hc, hsign⟩ | ⟨rfl, c, hc, hends⟩)
  · exact .sign hc hsign hf
  · exact .ends hc hends

theorem inheritance_blemish (h : (inheritance objects).2 = some f) : NameBlemish objects f := by
  change (collect (inheritanceAttempts objects)).2 = some f at h
  refine FailsOnly.collect (fun x hx => ?_) h
  obtain ⟨c, -, hx⟩ := List.mem_flatMap.1 hx
  obtain ⟨base, -, rfl⟩ := List.mem_map.1 hx
  exact (resolve_failsOnly _ _ _).bind fun found _ => .ok _

theorem dependency_blemish (h : (dependency objects).2 = some f) : NameBlemish objects f := by
  change (collect (dependencyAttempts objects)).2 = some f at h
  refine FailsOnly.collect (fun x hx => ?_) h
  obtain ⟨c, -, hx⟩ := List.mem_flatMap.1 hx
  obtain ⟨o, -, hx⟩ := List.mem_flatMap.1 hx
  obtain ⟨p, -, rfl⟩ := List.mem_map.1 hx
  exact (resolve_failsOnly _ _ _).bind fun found _ => .ok _

theorem nesting_blemish (h : (nesting objects).2 = some f) : NameBlemish objects f := by
  change (collect (nestingAttempts objects)).2 = some f at h
  refine FailsOnly.collect (fun x hx => ?_) h
  obtain ⟨c, -, rfl⟩ := List.mem_map.1 hx
  split
  · exact .ok none
  · split
    · exact .ok none
    · exact (resolve_failsOnly _ _ _).bind fun found _ => .ok _

theorem mentions_blemish (h : (collect (mentionAttempts objects)).2 = some f) :
    NameBlemish objects f := by
  refine FailsOnly.collect (fun x hx => ?_) h
  obtain ⟨c, -, hx⟩ := List.mem_flatMap.1 hx
  obtain ⟨type, -, rfl⟩ := List.mem_map.1 hx
  exact (resolve_failsOnly _ _ _).bind fun found _ => .ok _

/-- Both names of a mention are those under which containers are counted. -/
theorem exists_of_mention {m : Mention} (h : m ∈ (successes (mentionAttempts objects)).1) :
    ∃ c ∈ objects, ∃ d ∈ objects, m.owner = countedName c ∧ m.target = countedName d := by
  obtain ⟨c, hc, h⟩ := List.mem_flatMap.1 (mem_of_mem_successes h)
  obtain ⟨type, -, h⟩ := List.mem_map.1 h
  obtain ⟨found, hfound, h⟩ := bind_eq_ok_iff.1 h
  obtain ⟨d, rfl, rfl⟩ := Option.map_eq_some_iff.1 (Except.ok.inj h)
  exact ⟨c, (List.mem_filter.1 hc).1, d, mem_of_resolve hfound, rfl, rfl⟩

/-- A container that is not listed under its counted name has an empty component. -/
theorem not_isProper_of_listed_eq_none {c : Container} (hc : c ∈ objects)
    (h : listed objects (countedName c) = none) : ¬ c.IsProper := by
  intro hproper
  rw [countedName_eq hproper] at h
  have hnot := List.find?_eq_none.1 h c hc
  simp at hnot

/-- The entry at which the making of aggregation links stops has a name that is not listed. -/
theorem aggregationLinks_fault {entries : List (Text × Tally.Entry)}
    {before : Option (Endpoint × Endpoint)}
    (h : (aggregationLinks objects before entries).2 = some f) :
    ∃ x ∈ entries, (listed objects x.1 = none ∧ f = .unsetPair) ∨
      (listed objects x.2.target = none ∧ f = .unlisted x.2.target) := by
  induction entries generalizing before with
  | nil => simp [aggregationLinks] at h
  | cons x entries ih =>
    obtain ⟨owner, e⟩ := x
    rw [aggregationLinks] at h
    split at h
    · rename_i f' hends
      obtain rfl : f' = f := by simpa using h
      refine ⟨(owner, e), by simp, ?_⟩
      unfold entryEnds at hends
      split at hends
      · split at hends
        · simp at hends
        · rename_i hnone
          exact .inr ⟨hnone, (Except.error.inj hends).symm⟩
      · rename_i hnone
        split at hends
        · simp at hends
        · exact .inl ⟨hnone, (Except.error.inj hends).symm⟩
    · obtain ⟨y, hy, hfault⟩ := ih h
      exact ⟨y, by simp [hy], hfault⟩

theorem aggregation_blemish (h : (aggregation objects).2 = some f) : NameBlemish objects f := by
  unfold aggregation at h
  dsimp only at h
  split at h
  · rename_i f' hmentions
    obtain rfl : f' = f := by simpa using h
    exact mentions_blemish hmentions
  · obtain ⟨x, hx, hfault⟩ := aggregationLinks_fault h
    obtain ⟨hpos, hcount⟩ := Tally.mem_entries_iff.1 hx
    obtain ⟨c, hc, d, hd, howner, htarget⟩ :=
      exists_of_mention (List.count_pos_iff.1 (hcount ▸ hpos))
    dsimp only at howner htarget
    rcases hfault with ⟨hnone, rfl⟩ | ⟨hnone, rfl⟩
    · exact .unset hc (not_isProper_of_listed_eq_none hc (howner ▸ hnone))
    · exact .unlisted hd (not_isProper_of_listed_eq_none hd (htarget ▸ hnone)) _

end Relations

namespace Diagram

theorem Result.fault_of_andThen {r : Result} {next : Diagram → Result} {f : Fault}
    (h : (r.andThen next).2 = some f) : r.2 = some f ∨ (next r.1).2 = some f := by
  unfold Result.andThen at h
  split at h
  · rename_i f' hf
    obtain rfl : f' = f := by simpa using h
    exact .inl hf
  · exact .inr h

/-- Every fault of link building is owed to a blemish of a name. -/
theorem buildLinks_blemish {withDependencies : Bool} {d : Diagram} {f : Fault}
    (h : (d.buildLinks withDependencies).2 = some f) : NameBlemish d.objects f := by
  rcases Result.fault_of_andThen h with h | h
  · exact Relations.inheritance_blemish h
  rcases Result.fault_of_andThen h with h | h
  · exact Relations.aggregation_blemish h
  rcases Result.fault_of_andThen h with h | h
  · exact Relations.nesting_blemish h
  cases withDependencies with
  | true => exact Relations.dependency_blemish h
  | false => simp at h

/-- A class whose name is a template with two arguments, without the angle brackets. -/
def pairHeader : Header := .ofClass "Pair<int, char>".toList "n".toList [] ["Pairint, char*".toList]

/-- Links are built from all headers that are read without a fault, unless a name has a blemish: if
the names and namespaces hold no signs of patterns and no empty components, and the names start and
end in word characters, then there is no fault, and otherwise a fault is owed to one of these. -/
theorem buildLinks_faultless (withDependencies : Bool) (headers : List Header)
    (hread : ∀ x ∈ headers, x.objects.2 = none) :
    ∃ d, add (headers.map .ok) {} = (d, none) ∧
      d.objects = (headers.flatMap fun x => x.objects.1) ∧
      ((∀ c ∈ d.objects, c.IsSearchable ∧ c.IsProper) →
        ∃ e, d.buildLinks withDependencies = (e, none)) ∧
      ∀ f, (d.buildLinks withDependencies).2 = some f → NameBlemish d.objects f := by
  refine ⟨_, add_eq hread {}, by simp, fun hnames => ?_, fun f => buildLinks_blemish⟩
  refine ⟨_, Prod.ext rfl (Option.eq_none_iff_forall_ne_some.2 fun f hf => ?_)⟩
  cases buildLinks_blemish hf with
  | sign hc hsign => exact hsign (hnames _ hc).1.toIsLiteral
  | ends hc hends => exact hends (hnames _ hc).1.ends
  | unset hc hproper => exact hproper (hnames _ hc).2
  | unlisted hc hproper => exact hproper (hnames _ hc).2

theorem buildLinks_faultless_pair :
    ∃ d, add [.ok pairHeader] {} = (d, none) ∧ ∃ e, d.buildLinks true = (e, none) := by
  obtain ⟨d, hadd, hobjects, hok, -⟩ :=
    buildLinks_faultless true [pairHeader] (by decide +kernel)
  refine ⟨d, hadd, hok ?_⟩
  rw [hobjects]
  decide +kernel

/-- The class `S<T**>` is called `ST**` in a diagram. That is no pattern, so links cannot be built
as soon as an attribute has to be looked up. -/
theorem buildLinks_stops_at_sign :
    ∃ d, add [.ok (.ofClass "S<T**>".toList [] [] ["int".toList])] {} = (d, none) ∧
      (d.buildLinks false).2 = some (.pattern ⟨.multipleRepeat, some 5, none⟩) :=
  ⟨_, rfl, by decide +kernel⟩

end Diagram

end ClassDiagram
