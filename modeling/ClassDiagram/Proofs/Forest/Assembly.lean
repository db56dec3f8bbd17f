import ClassDiagram.Proofs.Forest.Shape

/-!
# Assembling the forest step by step

The forest can also be put together in two passes with a table of blocks: one pass puts each
container into the block of its namespace, and one puts each block into the block around it, the
deepest blocks first. Both look blocks up by name, and fail if there is none of a name. Blocks are
put into the table for the namespaces in use and for the ones around these, so neither pass ever
fails. The result is `Forest.ofObjects`.

While the passes run, each block holds what was put at its path so far. So a pass is described by
the paths and items that it deals with (`foldlM_place`), whatever the order in which they come.
-/
namespace ClassDiagram
open Text

namespace Forest

/-- What a block holds while it is filled: containers, and other blocks by name. -/
inductive Item where
  | leaf (c : Container)
  | inner (name : Text)

/-- The blocks by name, each with what it holds. -/
abbrev Table := List (Text × List Item)

namespace Table

/-- Puts an item behind those of a block. There has to be a block of that name. -/
def append (name : Text) (item : Item) : Table → Option Table
  | [] => none
  | (n, items) :: r =>
    if n = name then some ((n, items ++ [item]) :: r)
    else (append name item r).map fun r => (n, items) :: r

/-- An item as a tree, with the blocks inside it down to a depth. -/
def expand (table : Table) : Nat → Item → Tree
  | _, .leaf c => .leaf c
  | 0, .inner name => .block (some name) []
  | depth + 1, .inner name =>
    .block (some name) (((table.lookup name).getD []).map (expand table depth))

end Table

/-- The blocks, and what stands outside of all of them. -/
structure Assembly where
  table : Table
  top : List Item

/-- Puts a container into the block of its namespace. -/
def placeContainer (s : Assembly) (c : Container) : Option Assembly :=
  if c.ns = [] then some { s with top := s.top ++ [.leaf c] }
  else do return { s with table := ← s.table.append c.ns (.leaf c) }

/-- Puts a block into the block around it. -/
def placeBlock (s : Assembly) (name : Text) : Option Assembly := do
  let _ ← s.table.lookup name
  if 1 < name.components.length then
    return { s with table := ← s.table.append (qualify name.components.dropLast) (.inner name) }
  else return { s with top := s.top ++ [.inner name] }

/-- The namespaces in use. -/
def usedNames (objects : List Container) : List Text :=
  ((objects.map Container.ns).filter (· ≠ [])).eraseDups

/-- The namespaces around one, outermost first. -/
def outerNames (ns : Text) : List Text :=
  (List.range (ns.components.length - 1)).map fun i => qualify (ns.components.take (i + 1))

/-- Deeper namespaces come first, and of the same depth the last ones by name. -/
def precedes (a b : Text) : Bool :=
  b.components.length < a.components.length
    || (a.components.length = b.components.length && le b a)

/-- The names of all blocks, in the order in which they are placed. -/
def blockNames (objects : List Container) : List Text :=
  let used := usedNames objects
  (used.flatMap fun ns => ns :: (outerNames ns).filter (· ∉ used)).eraseDups.mergeSort precedes

/-- The forest of some containers by way of the table. -/
def assemble (objects : List Container) : Option (List Tree) := do
  let names := blockNames objects
  let s ← objects.foldlM placeContainer { table := names.map fun n => (n, []), top := [] }
  let s ← names.foldlM placeBlock s
  return s.top.map (s.table.expand (height objects))

section
variable {names : List Text}

theorem append_map (hnodup : names.Nodup) {name : Text} (hname : name ∈ names) (item : Item)
    (held : Text → List Item) :
    Table.append name item (names.map fun n => (n, held n)) =
      some (names.map fun n => (n, if n = name then held n ++ [item] else held n)) := by
  induction names with
  | nil => simp at hname
  | cons n names ih =>
    obtain ⟨hn, hnodup⟩ := List.nodup_cons.1 hnodup
    rw [List.map_cons, Table.append]
    by_cases hnn : n = name
    · subst hnn
      have hothers : ∀ m ∈ names, m ≠ n := fun m hm h => hn (h ▸ hm)
      simpa using hothers
    · have hname : name ∈ names := (List.mem_cons.1 hname).resolve_left (Ne.symm hnn)
      rw [if_neg hnn, ih hnodup hname]
      simp [hnn]

theorem lookup_map {name : Text} (hname : name ∈ names) (held : Text → List Item) :
    (names.map fun n => (n, held n)).lookup name = some (held name) := by
  induction names with
  | nil => simp at hname
  | cons n names ih =>
    by_cases hnn : name = n
    · subst hnn
      simp
    · have hname : name ∈ names := (List.mem_cons.1 hname).resolve_left hnn
      rw [List.map_cons, List.lookup_cons, beq_false_of_ne hnn]
      exact ih hname

/-- The state in which there is a block for each name, and at each path the given items. -/
def Assembly.holding (names : List Text) (held : List Text → List Item) : Assembly :=
  { table := names.map fun n => (n, held n.components), top := held [] }

/-- One more item at a path. -/
def put (path : List Text) (item : Item) (held : List Text → List Item) : List Text → List Item :=
  fun p => if p = path then held p ++ [item] else held p

/-- A pass leaves at each path the items that belong there, in the order of the pass. -/
theorem foldlM_place {α : Type} {step : Assembly → α → Option Assembly} (path : α → List Text)
    (item : α → Item) {xs : List α}
    (hstep : ∀ x ∈ xs, ∀ held, step (.holding names held) x =
      some (.holding names (put (path x) (item x) held))) (held : List Text → List Item) :
    xs.foldlM step (.holding names held) =
      some (.holding names fun p => held p ++ (xs.filter fun x => path x = p).map item) := by
  induction xs generalizing held with
  | nil => simp
  | cons x xs ih =>
    rw [List.foldlM_cons, hstep x (by simp), Option.bind_eq_bind, Option.bind_some,
      ih fun y hy => hstep y (by simp [hy])]
    congr 2
    funext p
    by_cases hp : path x = p
    · subst hp
      simp [put]
    · simp [put, hp, Ne.symm hp]

/-- An item outside of all blocks does not change the table. -/
theorem holding_put_nil (item : Item) (held : List Text → List Item) :
    Assembly.holding names (put [] item held) =
      { Assembly.holding names held with top := held [] ++ [item] } := by
  have htable : ∀ n ∈ names, put [] item held n.components = held n.components := fun n _ =>
    if_neg (components_ne_nil n)
  simpa [Assembly.holding, put] using htable

/-- An item in a block changes nothing else. -/
theorem holding_put_components (hnodup : names.Nodup) {name : Text} (hname : name ∈ names)
    (item : Item) (held : List Text → List Item) :
    (do return { Assembly.holding names held with
      table := ← (Assembly.holding names held).table.append name item }) =
      some (Assembly.holding names (put name.components item held)) := by
  have htop : put name.components item held [] = held [] := if_neg (components_ne_nil name).symm
  have htable : ∀ n, (if n = name then held n.components ++ [item] else held n.components) =
      put name.components item held n.components := fun n => by
    by_cases hn : n = name
    · rw [if_pos hn, hn, put, if_pos rfl]
    · rw [if_neg hn, put, if_neg fun h => hn (components_injective h)]
  simp only [Assembly.holding, append_map hnodup hname, htop, htable]
  rfl

theorem placeContainer_holding (hnodup : names.Nodup) {c : Container}
    (hc : c.ns ≠ [] → c.ns ∈ names) (held : List Text → List Item) :
    placeContainer (.holding names held) c =
      some (.holding names (put (Namespace.parts c.ns) (.leaf c) held)) := by
  unfold placeContainer Namespace.parts
  by_cases hns : c.ns = []
  · rw [if_pos hns, if_pos hns, holding_put_nil]
    rfl
  · rw [if_neg hns, if_neg hns]
    exact holding_put_components hnodup (hc hns) (.leaf c) held

theorem placeBlock_holding (hnodup : names.Nodup) {name : Text} (hname : name ∈ names)
    (houter : 1 < name.components.length → qualify name.components.dropLast ∈ names)
    (held : List Text → List Item) :
    placeBlock (.holding names held) name =
      some (.holding names (put name.components.dropLast (.inner name) held)) := by
  have hlookup : (Assembly.holding names held).table.lookup name = some (held name.components) :=
    lookup_map hname fun n => held n.components
  unfold placeBlock
  rw [hlookup, Option.bind_eq_bind, Option.bind_some]
  by_cases hlen : 1 < name.components.length
  · rw [if_pos hlen]
    have hput := holding_put_components hnodup (houter hlen) (.inner name) held
    rwa [components_qualify_dropLast hlen] at hput
  · have hnil : name.components.dropLast = [] := by
      rw [← List.length_eq_zero_iff, List.length_dropLast]
      omega
    rw [if_neg hlen, hnil, holding_put_nil]
    rfl

end

section
variable {objects : List Container}

theorem mem_usedNames {n : Text} : n ∈ usedNames objects ↔ n ≠ [] ∧ ∃ c ∈ objects, c.ns = n := by
  simp [usedNames, and_comm]

theorem mem_outerNames {n ns : Text} :
    n ∈ outerNames ns ↔ n.components <+: ns.components ∧ n ≠ ns := by
  simp only [outerNames, List.mem_map, List.mem_range]
  constructor
  · rintro ⟨i, hi, rfl⟩
    have hcut := components_qualify_take ns (Nat.succ_pos i)
    refine ⟨by rw [hcut]; exact List.take_prefix _ _, fun h => ?_⟩
    have hlen := congrArg List.length hcut
    rw [h, List.length_take] at hlen
    omega
  · rintro ⟨hn, hne⟩
    have hpos := List.length_pos_iff.2 (components_ne_nil n)
    have hle := hn.length_le
    have hlt : n.components.length ≠ ns.components.length := fun h =>
      hne (components_injective (hn.eq_of_length h))
    refine ⟨n.components.length - 1, by omega, ?_⟩
    rw [Nat.sub_add_cancel hpos, ← List.prefix_iff_eq_take.1 hn, qualify_components]

/-- There is a block for each prefix of a namespace in use. -/
theorem mem_blockNames {n : Text} :
    n ∈ blockNames objects ↔ ∃ c ∈ objects, n.components <+: Namespace.parts c.ns := by
  rw [blockNames, List.mem_mergeSort, List.mem_eraseDups, List.mem_flatMap]
  constructor
  · rintro ⟨ns, hns, hn⟩
    obtain ⟨hne, c, hc, rfl⟩ := mem_usedNames.1 hns
    refine ⟨c, hc, ?_⟩
    rw [Namespace.parts, if_neg hne]
    rcases List.mem_cons.1 hn with rfl | hn
    · exact List.prefix_refl _
    · exact (mem_outerNames.1 (List.mem_filter.1 hn).1).1
  · rintro ⟨c, hc, hn⟩
    have hne : c.ns ≠ [] := by
      intro hns
      rw [Namespace.parts, if_pos hns, List.prefix_nil] at hn
      exact components_ne_nil n hn
    rw [Namespace.parts, if_neg hne] at hn
    have hused : c.ns ∈ usedNames objects := mem_usedNames.2 ⟨hne, c, hc, rfl⟩
    by_cases hnused : n ∈ usedNames objects
    · exact ⟨n, hnused, List.mem_cons_self⟩
    · have houter : n ∈ outerNames c.ns :=
        mem_outerNames.2 ⟨hn, fun h => hnused (h ▸ hused)⟩
      have hkept : n ∈ (outerNames c.ns).filter (· ∉ usedNames objects) :=
        List.mem_filter.2 ⟨houter, by simpa using hnused⟩
      exact ⟨c.ns, hused, List.mem_cons_of_mem _ hkept⟩

theorem nodup_blockNames (objects : List Container) : (blockNames objects).Nodup := by
  rw [blockNames, (List.mergeSort_perm _ _).nodup_iff]
  exact nodup_eraseDups _

theorem precedes_iff {a b : Text} :
    precedes a b = true ↔ b.components.length < a.components.length ∨
      a.components.length = b.components.length ∧ le b a = true := by
  simp [precedes]

theorem precedes_total (a b : Text) : (precedes a b || precedes b a) = true := by
  rw [Bool.or_eq_true, precedes_iff, precedes_iff]
  rcases Nat.lt_trichotomy a.components.length b.components.length with h | h | h
  · exact .inr (.inl h)
  · rcases Text.le_total a b with hle | hle
    · exact .inr (.inr ⟨h.symm, hle⟩)
    · exact .inl (.inr ⟨h, hle⟩)
  · exact .inl (.inl h)

theorem precedes_trans (a b c : Text) (h : precedes a b = true) (h' : precedes b c = true) :
    precedes a c = true := by
  rw [precedes_iff] at h h' ⊢
  rcases h with h | ⟨hlen, h⟩ <;> rcases h' with h' | ⟨hlen', h'⟩
  · exact .inl (by omega)
  · exact .inl (by omega)
  · exact .inl (by omega)
  · exact .inr ⟨by omega, Text.le_trans h' h⟩

theorem precedes_antisymm {a b : Text} (h : precedes a b = true) (h' : precedes b a = true) :
    a = b := by
  rw [precedes_iff] at h h'
  rcases h with h | ⟨hlen, h⟩ <;> rcases h' with h' | ⟨hlen', h'⟩
  · omega
  · omega
  · omega
  · exact Text.le_antisymm h' h

theorem pairwise_blockNames (objects : List Container) :
    (blockNames objects).Pairwise fun a b => precedes a b = true :=
  List.pairwise_mergeSort precedes_trans precedes_total _

/-- The entries below a path. -/
def below (path : List Text) (objects : List Container) : List Entry :=
  objects.filterMap fun c =>
    if path <+: Namespace.parts c.ns then
      some { path := (Namespace.parts c.ns).drop path.length, container := c }
    else none

theorem below_nil (objects : List Container) : below [] objects = entriesOf objects := by
  simp [below, entriesOf]

theorem mem_below {path : List Text} {e : Entry} :
    e ∈ below path objects ↔
      e.container ∈ objects ∧ Namespace.parts e.container.ns = path ++ e.path := by
  obtain ⟨p, c⟩ := e
  simp only [below, List.mem_filterMap, Option.ite_none_right_eq_some, Option.some.injEq,
    Entry.mk.injEq]
  constructor
  · rintro ⟨x, hx, ⟨r, hr⟩, rfl, rfl⟩
    refine ⟨hx, ?_⟩
    rw [← hr, List.drop_left]
  · rintro ⟨hc, hparts⟩
    refine ⟨c, hc, ⟨p, hparts.symm⟩, ?_, rfl⟩
    rw [hparts, List.drop_left]

/-- Inside the block of a component are the entries below that block. -/
theorem below_concat (path : List Text) (w : Text) (objects : List Container) :
    (below path objects).filterMap (fun e => e.enter w) = below (path ++ [w]) objects := by
  rw [below, List.filterMap_filterMap]
  refine List.filterMap_congr fun c _ => ?_
  by_cases hpath : path <+: Namespace.parts c.ns
  · obtain ⟨r, hr⟩ := hpath
    rw [← hr, if_pos (List.prefix_append path r), List.drop_left, Option.bind_some]
    cases r with
    | nil =>
      have hlonger : ¬ path ++ [w] <+: path := fun h => by
        have hlen := h.length_le
        rw [List.length_append, List.length_singleton] at hlen
        omega
      simp [Entry.enter, hlonger]
    | cons v r =>
      by_cases hv : v = w
      · subst hv
        simp [Entry.enter]
      · simp [Entry.enter, hv, Ne.symm hv]
  · have hlonger : ¬ path ++ [w] <+: Namespace.parts c.ns := fun h =>
      hpath ((List.prefix_append path [w]).trans h)
    rw [if_neg hpath, if_neg hlonger, Option.bind_none]

/-- What stands at a path in the end: the containers of that namespace and the blocks inside it. -/
def content (objects : List Container) (path : List Text) : List Item :=
  ((objects.filter fun c => Namespace.parts c.ns = path).map .leaf) ++
    ((blockNames objects).filter fun n => n.components.dropLast = path).map .inner

/-- No pass fails. -/
theorem passes_eq (objects : List Container) :
    (do let s ← objects.foldlM placeContainer
          { table := (blockNames objects).map fun n => (n, []), top := [] }
        (blockNames objects).foldlM placeBlock s) =
      some (.holding (blockNames objects) (content objects)) := by
  have hnodup := nodup_blockNames objects
  have hcontainer : ∀ c ∈ objects, ∀ held,
      placeContainer (.holding (blockNames objects) held) c =
        some (.holding (blockNames objects) (put (Namespace.parts c.ns) (.leaf c) held)) := by
    intro c hc held
    refine placeContainer_holding hnodup (fun hns => ?_) held
    have hparts : Namespace.parts c.ns = c.ns.components := if_neg hns
    exact mem_blockNames.2 ⟨c, hc, [], by rw [hparts, List.append_nil]⟩
  have hblock : ∀ n ∈ blockNames objects, ∀ held,
      placeBlock (.holding (blockNames objects) held) n =
        some (.holding (blockNames objects) (put n.components.dropLast (.inner n) held)) := by
    intro n hn held
    refine placeBlock_holding hnodup hn (fun hlen => ?_) held
    obtain ⟨c, hc, hfront⟩ := mem_blockNames.1 hn
    refine mem_blockNames.2 ⟨c, hc, ?_⟩
    rw [components_qualify_dropLast hlen]
    exact (List.dropLast_prefix _).trans hfront
  have hstart : ({ table := (blockNames objects).map fun n => (n, []), top := [] } : Assembly) =
      .holding (blockNames objects) fun _ => [] := rfl
  rw [hstart, foldlM_place _ _ hcontainer, Option.bind_eq_bind, Option.bind_some,
    foldlM_place _ _ hblock]
  rfl

theorem mem_nextComponents_below {path : List Text} {w : Text} :
    w ∈ nextComponents (below path objects) ↔
      ∃ c ∈ objects, path ++ [w] <+: Namespace.parts c.ns := by
  rw [mem_nextComponents]
  constructor
  · rintro ⟨e, he, r, hpath⟩
    obtain ⟨hc, hparts⟩ := mem_below.1 he
    exact ⟨e.container, hc, r, by simp [hparts, hpath]⟩
  · rintro ⟨c, hc, r, hr⟩
    exact ⟨⟨w :: r, c⟩, mem_below.2 ⟨hc, by simp [← hr]⟩, r, rfl⟩

theorem components_of_mem_nextComponents {path : List Text} {w : Text}
    (hw : w ∈ nextComponents (below path objects)) :
    (qualify (path ++ [w])).components = path ++ [w] := by
  obtain ⟨c, -, hfront⟩ := mem_nextComponents_below.1 hw
  exact components_qualify_of_isPrefix_parts (by simp) hfront

theorem mem_inner_names {path : List Text} {n : Text} :
    (n ∈ blockNames objects ∧ n.components.dropLast = path) ↔
      ∃ w ∈ nextComponents (below path objects), qualify (path ++ [w]) = n := by
  constructor
  · rintro ⟨hn, hlast⟩
    have hcut : path ++ [n.components.getLast (components_ne_nil n)] = n.components := by
      rw [← hlast, List.dropLast_append_getLast]
    obtain ⟨c, hc, hfront⟩ := mem_blockNames.1 hn
    exact ⟨_, mem_nextComponents_below.2 ⟨c, hc, hcut ▸ hfront⟩, by rw [hcut, qualify_components]⟩
  · rintro ⟨w, hw, rfl⟩
    have hcut := components_of_mem_nextComponents hw
    obtain ⟨c, hc, hfront⟩ := mem_nextComponents_below.1 hw
    exact ⟨mem_blockNames.2 ⟨c, hc, by rwa [hcut]⟩, by rw [hcut, List.dropLast_concat]⟩

/-- The blocks inside a path, in the order in which they are placed. -/
theorem inner_names (path : List Text) (objects : List Container) :
    ((blockNames objects).filter fun n => n.components.dropLast = path) =
      (nextComponents (below path objects)).map fun w => qualify (path ++ [w]) := by
  have hinj : ∀ w ∈ nextComponents (below path objects),
      ∀ v ∈ nextComponents (below path objects),
        qualify (path ++ [w]) = qualify (path ++ [v]) → w = v := by
    intro w hw v hv h
    have hcut := congrArg components h
    rw [components_of_mem_nextComponents hw, components_of_mem_nextComponents hv] at hcut
    simpa using List.append_cancel_left hcut
  have hperm : ((blockNames objects).filter fun n => n.components.dropLast = path).Perm
      ((nextComponents (below path objects)).map fun w => qualify (path ++ [w])) := by
    rw [List.perm_ext_iff_of_nodup ((nodup_blockNames objects).filter _)
      ((nodup_nextComponents _).map_on hinj)]
    intro n
    simpa using mem_inner_names
  refine hperm.eq_of_pairwise (fun a b _ _ => precedes_antisymm)
    ((pairwise_blockNames objects).filter _) ?_
  rw [List.pairwise_map]
  refine (pairwise_nextComponents _).imp_of_mem fun {w v} hw hv hle => ?_
  rw [precedes_iff, components_of_mem_nextComponents hw, components_of_mem_nextComponents hv,
    le_qualify_concat]
  exact .inr ⟨by simp, hle⟩

theorem own_below (path : List Text) (objects : List Container) :
    ((below path objects).filter fun e => e.path = []).map Entry.container =
      objects.filter fun c => Namespace.parts c.ns = path := by
  induction objects with
  | nil => rfl
  | cons c objects ih =>
    rw [below, List.filterMap_cons]
    by_cases hpath : path <+: Namespace.parts c.ns
    · obtain ⟨r, hr⟩ := hpath
      rw [← hr, if_pos (List.prefix_append path r), List.drop_left, ← below]
      cases r with
      | nil => simpa [← hr] using ih
      | cons v r => simpa [← hr] using ih
    · have hne : Namespace.parts c.ns ≠ path := fun h => hpath (h ▸ List.prefix_refl _)
      rw [if_neg hpath, List.filter_cons_of_neg (by simpa using hne)]
      exact ih

/-- A block that is looked up by name is expanded to what stands at its path. -/
theorem expand_inner {path : List Text} {w : Text}
    (hw : w ∈ nextComponents (below path objects)) (depth : Nat) :
    (Assembly.holding (blockNames objects) (content objects)).table.expand (depth + 1)
        (.inner (qualify (path ++ [w]))) =
      .block (some (qualify (path ++ [w]))) ((content objects (path ++ [w])).map
        ((Assembly.holding (blockNames objects) (content objects)).table.expand depth)) := by
  have hname : qualify (path ++ [w]) ∈ blockNames objects := (mem_inner_names.2 ⟨w, hw, rfl⟩).1
  have hlookup : (Assembly.holding (blockNames objects) (content objects)).table.lookup
      (qualify (path ++ [w])) = some (content objects (qualify (path ++ [w])).components) :=
    lookup_map hname fun n => content objects n.components
  rw [Table.expand, hlookup, components_of_mem_nextComponents hw, Option.getD_some]

/-- Following the table from a path gives the trees of the entries below it. -/
theorem map_expand_content (depth : Nat) (path : List Text)
    (hdepth : ∀ e ∈ below path objects, e.path.length ≤ depth) :
    (content objects path).map
        ((Assembly.holding (blockNames objects) (content objects)).table.expand depth) =
      build depth path (below path objects) := by
  rw [content, inner_names, ← own_below]
  induction depth generalizing path with
  | zero =>
    have hnil : ∀ e ∈ below path objects, e.path = [] := fun e he =>
      List.eq_nil_of_length_eq_zero (Nat.le_zero.1 (hdepth e he))
    have hnext : nextComponents (below path objects) = [] := by
      rw [List.eq_nil_iff_forall_not_mem]
      intro w hw
      obtain ⟨e, he, r, hpath⟩ := mem_nextComponents.1 hw
      simp [hnil e he] at hpath
    rw [hnext, build, List.filter_eq_self.2 fun e he => by simpa using hnil e he]
    simp [Table.expand]
  | succ depth ih =>
    rw [List.map_append, List.map_map, List.map_map, List.map_map, List.map_map, build]
    congr 1
    refine List.map_congr_left fun w hw => ?_
    refine (expand_inner hw depth).trans ?_
    rw [below_concat, content, inner_names, ← own_below, ih]
    rw [← below_concat]
    exact length_le_of_enter hdepth

/-- The table gives the same forest, and no look-up in it fails. -/
theorem assemble_eq (objects : List Container) : assemble objects = some (ofObjects objects) := by
  have hdepth : ∀ e ∈ below [] objects, e.path.length ≤ height objects := by
    rw [below_nil]
    exact length_le_height objects
  obtain ⟨s, hs, hs'⟩ := Option.bind_eq_some_iff.1 (passes_eq objects)
  rw [assemble, hs, Option.bind_eq_bind, Option.bind_some, hs', Option.bind_some]
  refine congrArg some ((map_expand_content (height objects) [] hdepth).trans ?_)
  rw [below_nil, ofObjects_eq]

/-- Whatever the namespaces of the containers look like, no look-up fails while the forest is put
together, and the forest is the exact one of the containers. -/
theorem assemble_exact (objects : List Container) :
    assemble objects = some (ofObjects objects) ∧ IsExact objects (ofObjects objects) :=
  ⟨assemble_eq objects, isExact_ofObjects objects⟩

end

end Forest

end ClassDiagram
