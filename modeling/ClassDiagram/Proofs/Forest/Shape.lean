import ClassDiagram.Forest
import ClassDiagram.Proofs.Text.Components
import ClassDiagram.Proofs.Text.Sorting
import Mathlib.Data.List.Nodup
import Mathlib.Data.List.Perm.Basic

/-!
# The shape of a forest

What stands where in the forest of some entries. Each entry is a leaf inside the blocks of all
prefixes of its path, there is one block for each prefix of some path, and none is empty. Everything
is shown by induction on the depth, following `Forest.build`: the entries at hand are those that
stop here and, for each next component, those that go on with it.
-/
namespace ClassDiagram
open Text

namespace Tree

mutual

/-- The containers of a tree in order, each with the names of the blocks around it, outermost first.
-/
def leaves (around : List (Option Text)) : Tree → List (List (Option Text) × Container)
  | .leaf c => [(around, c)]
  | .block name children => leavesAll (around ++ [name]) children

/-- The containers of some trees. -/
def leavesAll (around : List (Option Text)) : List Tree → List (List (Option Text) × Container)
  | [] => []
  | t :: ts => leaves around t ++ leavesAll around ts

end

/-- A block of a forest, with the names of the blocks around it, outermost first. -/
structure Block where
  around : List (Option Text)
  name : Option Text
  children : List Tree

mutual

/-- The blocks of a tree. -/
def blocks (around : List (Option Text)) : Tree → List Block
  | .leaf _ => []
  | .block name children => ⟨around, name, children⟩ :: blocksAll (around ++ [name]) children

/-- The blocks of some trees. -/
def blocksAll (around : List (Option Text)) : List Tree → List Block
  | [] => []
  | t :: ts => blocks around t ++ blocksAll around ts

end

variable {around : List (Option Text)}

theorem leavesAll_eq (ts : List Tree) : leavesAll around ts = ts.flatMap (leaves around) := by
  induction ts with
  | nil => rw [leavesAll, List.flatMap_nil]
  | cons t ts ih => rw [leavesAll, List.flatMap_cons, ih]

theorem blocksAll_eq (ts : List Tree) : blocksAll around ts = ts.flatMap (blocks around) := by
  induction ts with
  | nil => rw [blocksAll, List.flatMap_nil]
  | cons t ts ih => rw [blocksAll, List.flatMap_cons, ih]

end Tree

theorem components_qualify_of_isPrefix_parts {ns : Text} {ws : List Text} (hne : ws ≠ [])
    (h : ws <+: Namespace.parts ns) : (qualify ws).components = ws := by
  rw [Namespace.parts] at h
  split at h
  · exact absurd (List.prefix_nil.1 h) hne
  · exact components_qualify_of_isPrefix hne h

theorem le_qualify_concat (path : List Text) (v w : Text) :
    le (qualify (path ++ [v])) (qualify (path ++ [w])) = le v w := by
  by_cases hpath : path = []
  · rw [hpath]
    rfl
  · rw [qualify_append hpath (by simp), qualify_append hpath (by simp), le_append_left]
    rfl

namespace Forest

/-- The names of the blocks of a path, outermost first. -/
def chain (path : List Text) : List (Option Text) :=
  (List.range path.length).map fun i => some (qualify (path.take (i + 1)))

@[simp] theorem chain_nil : chain [] = [] := rfl

theorem chain_concat (path : List Text) (w : Text) :
    chain (path ++ [w]) = chain path ++ [some (qualify (path ++ [w]))] := by
  rw [chain, chain, List.length_append, List.length_singleton, List.range_succ, List.map_append]
  congr 1
  · refine List.map_congr_left fun i hi => ?_
    have hi : i < path.length := List.mem_range.1 hi
    rw [List.take_append_of_le_length (by omega)]
  · rw [List.map_singleton, List.take_of_length_le (by simp)]

section
variable {entries : List Entry} {w : Text}

theorem mem_nextComponents :
    w ∈ nextComponents entries ↔ ∃ e ∈ entries, ∃ r, e.path = w :: r := by
  simp [nextComponents, List.head?_eq_some_iff]

theorem nodup_nextComponents (entries : List Entry) : (nextComponents entries).Nodup := by
  rw [nextComponents, List.nodup_reverse, (perm_sortBy _ _).nodup_iff]
  exact nodup_eraseDups _

theorem pairwise_nextComponents (entries : List Entry) :
    (nextComponents entries).Pairwise fun a b => le b a = true := by
  rw [nextComponents, List.pairwise_reverse]
  refine (pairwise_sortBy (fun t => [t]) _).imp fun {a b} h => ?_
  by_cases hab : a = b
  · rw [hab]
    exact (Text.le_total b b).elim id id
  · simpa [Key.le, hab] using h

theorem mem_enter {e : Entry} :
    e ∈ entries.filterMap (fun e => e.enter w) ↔ ⟨w :: e.path, e.container⟩ ∈ entries := by
  obtain ⟨path, c⟩ := e
  rw [List.mem_filterMap]
  constructor
  · rintro ⟨⟨path', c'⟩, hmem, henter⟩
    cases path' with
    | nil => simp [Entry.enter] at henter
    | cons v r =>
      obtain ⟨rfl, rfl, rfl⟩ : v = w ∧ r = path ∧ c' = c := by simpa [Entry.enter] using henter
      exact hmem
  · intro hmem
    exact ⟨_, hmem, by simp [Entry.enter]⟩

/-- What is made of the entries inside the block of a component. -/
theorem map_enter {α : Type} (f : List Text → Container → α) (w : Text) (entries : List Entry) :
    (entries.filterMap fun e => e.enter w).map (fun e => f (w :: e.path) e.container) =
      (entries.filter fun e => e.path.head? = some w).map fun e => f e.path e.container := by
  induction entries with
  | nil => rfl
  | cons e entries ih =>
    obtain ⟨path, c⟩ := e
    cases path with
    | nil => simpa [Entry.enter] using ih
    | cons v r =>
      by_cases hv : v = w
      · simpa [Entry.enter, hv] using ih
      · simpa [Entry.enter, hv] using ih

theorem flatMap_filter_perm {keys : List Text} (hnodup : keys.Nodup) (entries : List Entry) :
    (keys.flatMap fun w => entries.filter fun e => e.path.head? = some w).Perm
      (entries.filter fun e => ∃ w ∈ keys, e.path.head? = some w) := by
  induction keys with
  | nil => simp
  | cons w keys ih =>
    obtain ⟨hw, hnodup⟩ := List.nodup_cons.1 hnodup
    have hsplit := List.filter_append_perm (fun e : Entry => e.path.head? = some w)
      (entries.filter fun e => ∃ v ∈ w :: keys, e.path.head? = some v)
    have hfirst : (entries.filter fun e => ∃ v ∈ w :: keys, e.path.head? = some v).filter
        (fun e => e.path.head? = some w) = entries.filter fun e => e.path.head? = some w := by
      rw [List.filter_filter]
      refine List.filter_congr fun e _ => ?_
      by_cases he : e.path.head? = some w
      · simp [he]
      · simp [he]
    have hothers : (entries.filter fun e => ∃ v ∈ w :: keys, e.path.head? = some v).filter
        (fun e => !decide (e.path.head? = some w)) =
          entries.filter fun e => ∃ v ∈ keys, e.path.head? = some v := by
      rw [List.filter_filter]
      refine List.filter_congr fun e _ => ?_
      by_cases he : e.path.head? = some w
      · simp [he, hw]
      · simp [he]
    rw [hfirst, hothers] at hsplit
    rw [List.flatMap_cons]
    exact ((ih hnodup).append_left _).trans hsplit

/-- Each entry stops here or goes on with one of the next components. -/
theorem partition_perm (entries : List Entry) :
    ((entries.filter fun e => e.path = []) ++ (nextComponents entries).flatMap fun w =>
      entries.filter fun e => e.path.head? = some w).Perm entries := by
  have hnext : (entries.filter fun e => ∃ w ∈ nextComponents entries, e.path.head? = some w) =
      entries.filter fun e => !decide (e.path = []) := by
    refine List.filter_congr fun e he => ?_
    cases hpath : e.path with
    | nil => simp
    | cons w r =>
      have hw : w ∈ nextComponents entries := mem_nextComponents.2 ⟨e, he, r, hpath⟩
      simp [hw]
  have hperm := flatMap_filter_perm (nodup_nextComponents entries) entries
  rw [hnext] at hperm
  exact (hperm.append_left _).trans (List.filter_append_perm _ entries)

end

section
variable {entries : List Entry} {depth : Nat} {path : List Text}

theorem leavesAll_map_leaf (around : List (Option Text)) (entries : List Entry) :
    Tree.leavesAll around (entries.map fun e => .leaf e.container) =
      entries.map fun e => (around, e.container) := by
  rw [Tree.leavesAll_eq, List.flatMap_map, List.map_eq_flatMap]
  rfl

/-- The leaves of a level: the entries that stop here, and the leaves of each inner block. -/
theorem leavesAll_build_succ (depth : Nat) (path : List Text) (entries : List Entry) :
    Tree.leavesAll (chain path) (build (depth + 1) path entries) =
      ((entries.filter fun e => e.path = []).map fun e => (chain path, e.container)) ++
        (nextComponents entries).flatMap fun w =>
          Tree.leavesAll (chain (path ++ [w]))
            (build depth (path ++ [w]) (entries.filterMap fun e => e.enter w)) := by
  rw [build, Tree.leavesAll_eq, List.flatMap_append, ← Tree.leavesAll_eq, leavesAll_map_leaf,
    List.flatMap_map]
  simp only [Tree.leaves, chain_concat]

theorem length_le_of_enter {w : Text} (hdepth : ∀ e ∈ entries, e.path.length ≤ depth + 1) :
    ∀ e ∈ entries.filterMap fun e => e.enter w, e.path.length ≤ depth := by
  intro e he
  have hlen := hdepth _ (mem_enter.1 he)
  rw [List.length_cons] at hlen
  omega

/-- Every entry is a leaf once, inside the blocks of its path. -/
theorem leaves_build_perm (path : List Text) (hdepth : ∀ e ∈ entries, e.path.length ≤ depth) :
    (Tree.leavesAll (chain path) (build depth path entries)).Perm
      (entries.map fun e => (chain (path ++ e.path), e.container)) := by
  induction depth generalizing path entries with
  | zero =>
    have hnil : ∀ e ∈ entries, e.path = [] := fun e he =>
      List.eq_nil_of_length_eq_zero (Nat.le_zero.1 (hdepth e he))
    rw [build, leavesAll_map_leaf]
    refine .of_eq (List.map_congr_left fun e he => ?_)
    rw [hnil e he, List.append_nil]
  | succ depth ih =>
    have hinner : ∀ w, (Tree.leavesAll (chain (path ++ [w]))
        (build depth (path ++ [w]) (entries.filterMap fun e => e.enter w))).Perm
          ((entries.filter fun e => e.path.head? = some w).map
            fun e => (chain (path ++ e.path), e.container)) := by
      intro w
      refine (ih _ (length_le_of_enter hdepth)).trans (.of_eq ?_)
      rw [← map_enter fun ws c => (chain (path ++ ws), c)]
      simp
    rw [leavesAll_build_succ]
    refine List.Perm.trans ?_ ((partition_perm entries).map _)
    rw [List.map_append, List.map_flatMap]
    refine List.Perm.append (.of_eq ?_) (List.Perm.flatMap_left _ fun w _ => hinner w)
    refine List.map_congr_left fun e he => ?_
    have hnil : e.path = [] := by simpa using (List.mem_filter.1 he).2
    rw [hnil, List.append_nil]

theorem flatMap_eq_of_unique {α : Type} {keys : List Text} (hnodup : keys.Nodup) {k : Text}
    (hk : k ∈ keys) {f : Text → List α} (h : ∀ w, w ≠ k → f w = []) : keys.flatMap f = f k := by
  induction keys with
  | nil => simp at hk
  | cons w keys ih =>
    obtain ⟨hw, hnodup⟩ := List.nodup_cons.1 hnodup
    rw [List.flatMap_cons]
    by_cases hwk : w = k
    · subst hwk
      have hothers : keys.flatMap f = [] := by
        rw [List.flatMap_eq_nil_iff]
        exact fun v hv => h v fun hvw => hw (hvw ▸ hv)
      rw [hothers, List.append_nil]
    · have hk : k ∈ keys := (List.mem_cons.1 hk).resolve_left (Ne.symm hwk)
      rw [h w hwk, ih hnodup hk, List.nil_append]

theorem filter_containers (keep : Container → Bool) (p : Entry → Bool)
    (h : ∀ e ∈ entries, keep e.container → p e) :
    ((entries.filter p).map Entry.container).filter keep =
      (entries.map Entry.container).filter keep := by
  rw [List.filter_map, List.filter_map, List.filter_filter]
  congr 1
  refine List.filter_congr fun e he => ?_
  cases hkeep : keep e.container with
  | true => simp [hkeep, h e he hkeep]
  | false => simp [hkeep]

theorem filter_containers_eq_nil (keep : Container → Bool) (p : Entry → Bool)
    (h : ∀ e ∈ entries, keep e.container → ¬ p e) :
    ((entries.filter p).map Entry.container).filter keep = [] := by
  rw [List.filter_eq_nil_iff]
  intro c hc hkeep
  obtain ⟨e, he, rfl⟩ := List.mem_map.1 hc
  obtain ⟨he, hp⟩ := List.mem_filter.1 he
  exact h e he hkeep hp

/-- Containers of one path are all own ones, or all go on with one component. -/
theorem filter_parts (keep : Container → Bool)
    (hkeep : ∀ e ∈ entries, ∀ e' ∈ entries, keep e.container → keep e'.container →
      e.path = e'.path) :
    ((entries.filter fun e => e.path = []).map Entry.container).filter keep ++
        ((nextComponents entries).flatMap fun w =>
          ((entries.filter fun e => e.path.head? = some w).map Entry.container).filter keep) =
      (entries.map Entry.container).filter keep := by
  by_cases hex : ∃ e ∈ entries, keep e.container ∧ ∃ w r, e.path = w :: r
  · obtain ⟨e₀, he₀, hk₀, w₀, r₀, hpath₀⟩ := hex
    have hhead : ∀ e ∈ entries, keep e.container → e.path.head? = some w₀ := fun e he hk => by
      rw [hkeep e he e₀ he₀ hk hk₀, hpath₀]
      rfl
    have hown := filter_containers_eq_nil keep (fun e => e.path = []) fun e he hk hnil => by
      have hnil : e.path = [] := by simpa using hnil
      simpa [hnil] using hhead e he hk
    have hothers : ∀ w, w ≠ w₀ →
        ((entries.filter fun e => e.path.head? = some w).map Entry.container).filter keep = [] :=
      fun w hw => filter_containers_eq_nil keep _ fun e he hk hew => hw <| by
        simpa [hhead e he hk, eq_comm] using hew
    rw [hown, List.nil_append, flatMap_eq_of_unique (nodup_nextComponents entries)
      (mem_nextComponents.2 ⟨e₀, he₀, r₀, hpath₀⟩) hothers]
    exact filter_containers keep _ fun e he hk => decide_eq_true (hhead e he hk)
  · have hnil : ∀ e ∈ entries, keep e.container → e.path = [] := fun e he hk => by
      cases hpath : e.path with
      | nil => rfl
      | cons w r => exact absurd ⟨e, he, hk, w, r, hpath⟩ hex
    have hothers : ((nextComponents entries).flatMap fun w =>
        ((entries.filter fun e => e.path.head? = some w).map Entry.container).filter keep) =
          [] := by
      rw [List.flatMap_eq_nil_iff]
      intro w _
      refine filter_containers_eq_nil keep _ fun e he hk hew => ?_
      simp [hnil e he hk] at hew
    rw [hothers, List.append_nil]
    exact filter_containers keep _ fun e he hk => decide_eq_true (hnil e he hk)

/-- Containers of one path keep their order. -/
theorem filter_leaves_build (keep : Container → Bool) (path : List Text)
    (hdepth : ∀ e ∈ entries, e.path.length ≤ depth)
    (hkeep : ∀ e ∈ entries, ∀ e' ∈ entries, keep e.container → keep e'.container →
      e.path = e'.path) :
    ((Tree.leavesAll (chain path) (build depth path entries)).map Prod.snd).filter keep =
      (entries.map Entry.container).filter keep := by
  induction depth generalizing path entries with
  | zero =>
    rw [build, leavesAll_map_leaf, List.map_map]
    rfl
  | succ depth ih =>
    have hinner : ∀ w, ((Tree.leavesAll (chain (path ++ [w]))
        (build depth (path ++ [w]) (entries.filterMap fun e => e.enter w))).map Prod.snd).filter
          keep =
        ((entries.filter fun e => e.path.head? = some w).map Entry.container).filter keep := by
      intro w
      rw [ih _ (length_le_of_enter hdepth), ← map_enter (fun _ c => c)]
      intro e he e' he' hke hke'
      have heq := hkeep _ (mem_enter.1 he) _ (mem_enter.1 he') hke hke'
      exact (List.cons.inj heq).2
    rw [leavesAll_build_succ, List.map_append, List.map_map, List.map_flatMap, List.filter_append,
      List.filter_flatMap]
    simp only [hinner]
    exact filter_parts keep hkeep

theorem blocksAll_map_leaf (around : List (Option Text)) (entries : List Entry) :
    Tree.blocksAll around (entries.map fun e => .leaf e.container) = [] := by
  rw [Tree.blocksAll_eq, List.flatMap_map, List.flatMap_eq_nil_iff]
  intro e _
  rw [Tree.blocks]

/-- The block of a next component, and the blocks inside it. -/
def branch (depth : Nat) (path : List Text) (entries : List Entry) (w : Text) : List Tree.Block :=
  ⟨chain path, some (qualify (path ++ [w])),
    build depth (path ++ [w]) (entries.filterMap fun e => e.enter w)⟩ ::
  Tree.blocksAll (chain (path ++ [w]))
    (build depth (path ++ [w]) (entries.filterMap fun e => e.enter w))

theorem blocksAll_build_succ (depth : Nat) (path : List Text) (entries : List Entry) :
    Tree.blocksAll (chain path) (build (depth + 1) path entries) =
      (nextComponents entries).flatMap (branch depth path entries) := by
  rw [build, Tree.blocksAll_eq, List.flatMap_append, ← Tree.blocksAll_eq, blocksAll_map_leaf,
    List.nil_append, List.flatMap_map]
  refine congrArg (List.flatMap · _) (funext fun w => ?_)
  rw [Tree.blocks, branch, chain_concat]

theorem build_ne_nil (depth : Nat) (path : List Text) (h : entries ≠ []) :
    build depth path entries ≠ [] := by
  obtain ⟨e, r, rfl⟩ := List.exists_cons_of_ne_nil h
  cases depth with
  | zero => simp [build]
  | succ depth =>
    rw [build]
    cases hpath : e.path with
    | nil => simp [hpath]
    | cons w q =>
      have hw : w ∈ nextComponents (e :: r) :=
        mem_nextComponents.2 ⟨e, List.mem_cons_self, q, hpath⟩
      refine List.append_ne_nil_of_right_ne_nil _ ?_
      exact List.ne_nil_of_mem (List.mem_map_of_mem hw)

/-- Every block has the name of a prefix of some path, lies inside the blocks of the shorter
prefixes and holds something. -/
theorem of_mem_blocks_build (path : List Text) {b : Tree.Block}
    (hb : b ∈ Tree.blocksAll (chain path) (build depth path entries)) :
    b.children ≠ [] ∧ ∃ e ∈ entries, ∃ q, q ≠ [] ∧ q <+: e.path ∧
      b.name = some (qualify (path ++ q)) ∧ b.around ++ [b.name] = chain (path ++ q) := by
  induction depth generalizing path entries with
  | zero =>
    rw [build, blocksAll_map_leaf] at hb
    simp at hb
  | succ depth ih =>
    rw [blocksAll_build_succ] at hb
    obtain ⟨w, hw, hb⟩ := List.mem_flatMap.1 hb
    rcases List.mem_cons.1 hb with rfl | hb
    · obtain ⟨⟨p, c⟩, he, r, rfl⟩ := mem_nextComponents.1 hw
      have henter : ⟨r, c⟩ ∈ entries.filterMap fun e => e.enter w := mem_enter.2 he
      have hne := build_ne_nil depth (path ++ [w]) (List.ne_nil_of_mem henter)
      exact ⟨hne, _, he, [w], by simp, ⟨r, rfl⟩, rfl, (chain_concat path w).symm⟩
    · obtain ⟨hne, e, he, q, -, hq, hname, haround⟩ := ih _ hb
      rw [List.append_assoc] at hname haround
      exact ⟨hne, _, mem_enter.1 he, w :: q, by simp, (List.prefix_cons_inj w).2 hq, hname, haround⟩

/-- Every prefix of a path has its block. -/
theorem exists_block_build (path : List Text) (hdepth : ∀ e ∈ entries, e.path.length ≤ depth)
    {e : Entry} (he : e ∈ entries) {q : List Text} (hne : q ≠ []) (hq : q <+: e.path) :
    ∃ b ∈ Tree.blocksAll (chain path) (build depth path entries),
      b.name = some (qualify (path ++ q)) := by
  induction depth generalizing path entries e q with
  | zero =>
    have hlen := hq.length_le
    have hnil := hdepth e he
    exact absurd (List.eq_nil_of_length_eq_zero (by omega)) hne
  | succ depth ih =>
    obtain ⟨w, q, rfl⟩ := List.exists_cons_of_ne_nil hne
    obtain ⟨p, c⟩ := e
    obtain ⟨r, rfl⟩ := hq
    have hw : w ∈ nextComponents entries := mem_nextComponents.2 ⟨_, he, q ++ r, rfl⟩
    rw [blocksAll_build_succ]
    by_cases hqnil : q = []
    · subst hqnil
      exact ⟨_, List.mem_flatMap.2 ⟨w, hw, List.mem_cons_self⟩, rfl⟩
    · have henter : ⟨q ++ r, c⟩ ∈ entries.filterMap fun e => e.enter w := mem_enter.2 he
      obtain ⟨b, hb, hname⟩ := ih (path ++ [w]) (length_le_of_enter hdepth) henter hqnil
        (List.prefix_append q r)
      refine ⟨b, List.mem_flatMap.2 ⟨w, hw, List.mem_cons_of_mem _ hb⟩, ?_⟩
      rw [hname, List.append_assoc]
      rfl

/-- The prefixes of all paths, behind a given one, can be read off the names of their blocks. -/
def Readable (path : List Text) (entries : List Entry) : Prop :=
  ∀ e ∈ entries, ∀ q, q ≠ [] → q <+: e.path → (qualify (path ++ q)).components = path ++ q

theorem Readable.enter (h : Readable path entries) (w : Text) :
    Readable (path ++ [w]) (entries.filterMap fun e => e.enter w) := by
  intro e he q _ hq
  simpa using h _ (mem_enter.1 he) (w :: q) (by simp) ((List.prefix_cons_inj w).2 hq)

theorem Readable.components_concat (h : Readable path entries) {w : Text}
    (hw : w ∈ nextComponents entries) : (qualify (path ++ [w])).components = path ++ [w] := by
  obtain ⟨e, he, r, hpath⟩ := mem_nextComponents.1 hw
  exact h e he [w] (by simp) ⟨r, by rw [hpath]; rfl⟩

/-- The names of the blocks on a level start with the path of that level, and go on. -/
theorem Readable.components_of_mem_blocks (h : Readable path entries) {n : Option Text}
    (hn : n ∈ (Tree.blocksAll (chain path) (build depth path entries)).map Tree.Block.name) :
    ∃ q, q ≠ [] ∧ n.map components = some (path ++ q) := by
  obtain ⟨b, hb, rfl⟩ := List.mem_map.1 hn
  obtain ⟨-, e, he, q, hne, hq, hname, -⟩ := of_mem_blocks_build path hb
  exact ⟨q, hne, by rw [hname, Option.map_some, h e he q hne hq]⟩

theorem Readable.components_of_mem_branch (h : Readable path entries) {w : Text}
    (hw : w ∈ nextComponents entries) {n : Option Text}
    (hn : n ∈ (branch depth path entries w).map Tree.Block.name) :
    ∃ q, n.map components = some (path ++ w :: q) := by
  rw [branch, List.map_cons] at hn
  rcases List.mem_cons.1 hn with rfl | hn
  · exact ⟨[], by rw [Option.map_some, h.components_concat hw]⟩
  · obtain ⟨q, -, hq⟩ := (h.enter w).components_of_mem_blocks hn
    exact ⟨q, by rw [hq, List.append_assoc]; rfl⟩

/-- No two blocks have the same name. -/
theorem Readable.nodup_names (h : Readable path entries) (depth : Nat) :
    ((Tree.blocksAll (chain path) (build depth path entries)).map Tree.Block.name).Nodup := by
  induction depth generalizing path entries with
  | zero =>
    rw [build, blocksAll_map_leaf]
    exact List.nodup_nil
  | succ depth ih =>
    rw [blocksAll_build_succ, List.map_flatMap, List.nodup_flatMap]
    constructor
    · intro w hw
      rw [branch, List.map_cons, List.nodup_cons]
      refine ⟨fun hn => ?_, ih (h.enter w)⟩
      obtain ⟨q, hne, hq⟩ := (h.enter w).components_of_mem_blocks hn
      rw [Option.map_some, h.components_concat hw] at hq
      exact hne (List.append_cancel_left ((List.append_nil _).trans (Option.some.inj hq))).symm
    · refine (nodup_nextComponents entries).imp_of_mem fun {w v} hw hv hwv n hn hn' => hwv ?_
      obtain ⟨q, hq⟩ := h.components_of_mem_branch hw hn
      obtain ⟨q', hq'⟩ := h.components_of_mem_branch hv hn'
      have heq : path ++ w :: q = path ++ v :: q' := Option.some.inj (hq.symm.trans hq')
      exact (List.cons.inj (List.append_cancel_left heq)).1

end

/-- The entries of some containers. -/
def entriesOf (objects : List Container) : List Entry :=
  objects.map fun c => { path := Namespace.parts c.ns, container := c }

/-- The number of components of the deepest namespace. -/
def height (objects : List Container) : Nat :=
  (objects.map fun c => (Namespace.parts c.ns).length).foldl max 0

section
variable {objects : List Container}

theorem ofObjects_eq (objects : List Container) :
    ofObjects objects = build (height objects) [] (entriesOf objects) := by
  rw [ofObjects, height, entriesOf, List.map_map]
  rfl

theorem le_foldl_max (xs : List Nat) (a : Nat) :
    a ≤ xs.foldl max a ∧ ∀ x ∈ xs, x ≤ xs.foldl max a := by
  induction xs generalizing a with
  | nil => simp
  | cons y xs ih =>
    obtain ⟨hstart, hrest⟩ := ih (max a y)
    rw [List.foldl_cons]
    refine ⟨by omega, fun x hx => ?_⟩
    rcases List.mem_cons.1 hx with rfl | hx
    · omega
    · exact hrest x hx

theorem length_le_height (objects : List Container) :
    ∀ e ∈ entriesOf objects, e.path.length ≤ height objects := by
  intro e he
  obtain ⟨c, hc, rfl⟩ := List.mem_map.1 he
  exact (le_foldl_max _ 0).2 _ (List.mem_map_of_mem hc)

/-- A forest with each container once and with no blocks but those that the containers need. -/
structure IsExact (objects : List Container) (forest : List Tree) : Prop where
  /-- Every container is a leaf once, inside the blocks of its namespace alone. -/
  leaves : (Tree.leavesAll [] forest).Perm
    (objects.map fun c => (chain (Namespace.parts c.ns), c))
  /-- The containers of one namespace keep their order. -/
  order : ∀ ns : Text, ((Tree.leavesAll [] forest).map Prod.snd).filter (fun c => c.ns = ns) =
    objects.filter fun c => c.ns = ns
  /-- No two blocks have the same name. -/
  nodup : ((Tree.blocksAll [] forest).map Tree.Block.name).Nodup
  /-- The blocks are those of the namespaces in use and of the ones around these. -/
  names : ∀ name, name ∈ (Tree.blocksAll [] forest).map Tree.Block.name ↔
    ∃ c ∈ objects, c.ns ≠ [] ∧ ∃ k, 0 < k ∧ k ≤ c.ns.components.length ∧
      name = some (qualify (c.ns.components.take k))
  /-- Every block lies inside the blocks of the namespaces around it alone. -/
  around : ∀ b ∈ Tree.blocksAll [] forest,
    ∃ n : Text, b.name = some n ∧ b.around ++ [b.name] = chain n.components
  /-- No block is empty. -/
  children : ∀ b ∈ Tree.blocksAll [] forest, b.children ≠ []

theorem leaves_ofObjects_perm (objects : List Container) :
    (Tree.leavesAll [] (ofObjects objects)).Perm
      (objects.map fun c => (chain (Namespace.parts c.ns), c)) := by
  have hperm := leaves_build_perm [] (length_le_height objects)
  rw [← ofObjects_eq, entriesOf, List.map_map] at hperm
  exact hperm

theorem filter_leaves_ofObjects (objects : List Container) (ns : Text) :
    ((Tree.leavesAll [] (ofObjects objects)).map Prod.snd).filter (fun c => c.ns = ns) =
      objects.filter fun c => c.ns = ns := by
  have hpath : ∀ e ∈ entriesOf objects, ∀ e' ∈ entriesOf objects,
      decide (e.container.ns = ns) → decide (e'.container.ns = ns) → e.path = e'.path := by
    intro e he e' he' hns hns'
    obtain ⟨c, -, rfl⟩ := List.mem_map.1 he
    obtain ⟨c', -, rfl⟩ := List.mem_map.1 he'
    rw [of_decide_eq_true hns, of_decide_eq_true hns']
  have hfilter := filter_leaves_build (fun c => c.ns = ns) [] (length_le_height objects) hpath
  rw [← ofObjects_eq, entriesOf, List.map_map] at hfilter
  exact hfilter.trans (congrArg _ (List.map_id objects))

theorem of_mem_blocks_ofObjects {b : Tree.Block}
    (hb : b ∈ Tree.blocksAll [] (ofObjects objects)) :
    b.children ≠ [] ∧ ∃ c ∈ objects, ∃ q, q ≠ [] ∧ q <+: Namespace.parts c.ns ∧
      b.name = some (qualify q) ∧ b.around ++ [b.name] = chain q := by
  rw [ofObjects_eq] at hb
  obtain ⟨hne, e, he, q, hq⟩ := of_mem_blocks_build [] hb
  obtain ⟨c, hc, rfl⟩ := List.mem_map.1 he
  exact ⟨hne, c, hc, q, hq⟩

theorem mem_names_ofObjects (objects : List Container) (name : Option Text) :
    name ∈ (Tree.blocksAll [] (ofObjects objects)).map Tree.Block.name ↔
      ∃ c ∈ objects, c.ns ≠ [] ∧ ∃ k, 0 < k ∧ k ≤ c.ns.components.length ∧
        name = some (qualify (c.ns.components.take k)) := by
  constructor
  · intro hname
    obtain ⟨b, hb, rfl⟩ := List.mem_map.1 hname
    obtain ⟨-, c, hc, q, hne, hq, hname, -⟩ := of_mem_blocks_ofObjects hb
    have hns : c.ns ≠ [] := by
      intro hns
      rw [Namespace.parts, if_pos hns] at hq
      exact hne (List.prefix_nil.1 hq)
    rw [Namespace.parts, if_neg hns] at hq
    refine ⟨c, hc, hns, q.length, List.length_pos_iff.2 hne, hq.length_le, ?_⟩
    rw [hname, ← List.prefix_iff_eq_take.1 hq]
  · rintro ⟨c, hc, hns, k, hpos, hk, rfl⟩
    have hparts : Namespace.parts c.ns = c.ns.components := if_neg hns
    have hentry : (⟨c.ns.components, c⟩ : Entry) ∈ entriesOf objects :=
      List.mem_map.2 ⟨c, hc, by rw [hparts]⟩
    have hne : c.ns.components.take k ≠ [] := by
      rw [← List.length_pos_iff, List.length_take]
      omega
    obtain ⟨b, hb, hname⟩ := exists_block_build [] (length_le_height objects) hentry hne
      (List.take_prefix k c.ns.components)
    rw [ofObjects_eq]
    exact List.mem_map.2 ⟨b, hb, hname⟩

theorem isExact_ofObjects (objects : List Container) : IsExact objects (ofObjects objects) where
  leaves := leaves_ofObjects_perm objects
  order := filter_leaves_ofObjects objects
  nodup := by
    have hreadable : Readable [] (entriesOf objects) := fun e he q hne hq => by
      obtain ⟨c, -, rfl⟩ := List.mem_map.1 he
      exact components_qualify_of_isPrefix_parts hne hq
    rw [ofObjects_eq]
    exact hreadable.nodup_names (height objects)
  names := mem_names_ofObjects objects
  around b hb := by
    obtain ⟨-, c, -, q, hne, hq, hname, haround⟩ := of_mem_blocks_ofObjects hb
    exact ⟨qualify q, hname, by rw [haround, components_qualify_of_isPrefix_parts hne hq]⟩
  children b hb := (of_mem_blocks_ofObjects hb).1

end

end Forest

end ClassDiagram
