import ClassDiagram.Proofs.Diagram.Grounding
import ClassDiagram.Proofs.Header.MissingFields

/-!
# Interrupted readings

Sources are read one declaration after the other, and the first one that cannot be read stops the
reading: a source without declarations, or a declaration with a missing field at any depth. What has
been read until then stays in the diagram, nothing of the declaration at which it stopped does, and
links are made only after the last source. So the state after a failure is known from the sources
alone (`Stops`).
-/
namespace ClassDiagram

section
variable {α β : Type}

/-- Going through a list of attempts stops at the first failure. -/
theorem collect_eq_some_iff {xs : List (Except Fault α)} {as : List α} {f : Fault} :
    collect xs = (as, some f) ↔ ∃ rest, xs = as.map .ok ++ .error f :: rest := by
  constructor
  · intro h
    induction xs generalizing as with
    | nil => simp [collect] at h
    | cons x xs ih =>
      cases x with
      | error e =>
        obtain ⟨rfl, rfl⟩ : [] = as ∧ e = f := by simpa [collect] using h
        exact ⟨xs, rfl⟩
      | ok a =>
        obtain ⟨has, hf⟩ : a :: (collect xs).1 = as ∧ (collect xs).2 = some f := by
          simpa [collect] using h
        obtain ⟨rest, hrest⟩ := ih (Prod.ext rfl hf)
        subst has
        exact ⟨rest, congrArg (Except.ok a :: ·) hrest⟩
  · rintro ⟨rest, rfl⟩
    have hnone : (collect (as.map (Except.ok : α → Except Fault α))).2 = none := by
      rw [collect_map_ok]
    rw [collect_append _ _ hnone, collect_map_ok]
    simp [collect]

theorem collect_eq_none_iff {xs : List (Except Fault α)} {as : List α} :
    collect xs = (as, none) ↔ xs = as.map .ok := by
  constructor
  · intro h
    induction xs generalizing as with
    | nil =>
      obtain rfl : [] = as := by simpa [collect] using h
      rfl
    | cons x xs ih =>
      cases x with
      | error e => simp [collect] at h
      | ok a =>
        obtain ⟨rfl, hnone⟩ : a :: (collect xs).1 = as ∧ (collect xs).2 = none := by
          simpa [collect] using h
        exact congrArg (Except.ok a :: ·) (ih (Prod.ext rfl hnone))
  · rintro rfl
    exact collect_map_ok as

/-- Where an element of lists put one behind the other comes from. -/
theorem exists_of_flatMap_eq_append_cons {g : α → List β} {xs : List α} {as bs : List β} {b : β}
    (h : xs.flatMap g = as ++ b :: bs) :
    ∃ before x after front rest, xs = before ++ x :: after ∧ g x = front ++ b :: rest ∧
      as = before.flatMap g ++ front := by
  induction xs generalizing as with
  | nil => simp at h
  | cons x xs ih =>
    rw [List.flatMap_cons] at h
    rcases List.append_eq_append_iff.1 h with ⟨tail, has, hxs⟩ | ⟨tail, hx, hb⟩
    · obtain ⟨before, y, after, front, rest, rfl, hy, rfl⟩ := ih hxs
      exact ⟨x :: before, y, after, front, rest, rfl, hy, by simp [has]⟩
    · cases tail with
      | nil =>
        obtain ⟨before, y, after, front, rest, rfl, hy, hnil⟩ :=
          ih (show xs.flatMap g = [] ++ b :: bs from hb.symm)
        have hempty : before.flatMap g ++ front = [] := hnil.symm
        refine ⟨x :: before, y, after, front, rest, rfl, hy, ?_⟩
        rw [List.flatMap_cons, List.append_assoc, hempty, hx, List.append_nil, List.append_nil]
      | cons c tail =>
        obtain ⟨rfl, -⟩ := List.cons.inj hb
        exact ⟨[], x, xs, as, tail, rfl, hx, rfl⟩

end

/-- The readings that a source stands for. -/
def Source.attempts : Source → List (Except Fault Container)
  | .error f => [.error f]
  | .ok h => h.attempts

/-- Reading the sources stops at a fault, after the given containers: those of all declarations in
front of it, in the sources before and in the same source. -/
inductive Stops (sources : List Source) (found : List Container) (f : Fault) : Prop where
  /-- A source has no declarations. -/
  | unreadable (before : List Header) (rest : List Source)
      (hsources : sources = before.map .ok ++ .error f :: rest)
      (hfound : (before.flatMap Header.declarations).map Header.Declaration.read = found.map .ok)
  /-- A declaration has a missing field, which is the first of those that it asks for. -/
  | incomplete (before : List Header) (h : Header) (rest : List Source)
      (front : List Header.Declaration) (i : Header.Declaration) (after : List Header.Declaration)
      (field : Header.Field) (others : List Header.Field)
      (hsources : sources = before.map .ok ++ .ok h :: rest)
      (hdeclarations : h.declarations = front ++ i :: after)
      (hmissing : i.missing = field :: others) (hfault : f = .missingField field)
      (hfound : (before.flatMap Header.declarations ++ front).map Header.Declaration.read =
        found.map .ok)

namespace Stops
variable {sources : List Source} {found : List Container} {f : Fault}

theorem flatMap_attempts (headers : List Header) :
    (headers.map (Except.ok : Header → Source)).flatMap Source.attempts =
      (headers.flatMap Header.declarations).map Header.Declaration.read := by
  rw [List.flatMap_map, List.map_flatMap]
  exact congrArg headers.flatMap (funext Header.attempts_eq)

/-- Sources of which every reading succeeds are headers. -/
theorem exists_headers {before : List Source} {front : List (Except Fault Container)}
    (h : found.map .ok = before.flatMap Source.attempts ++ front) :
    ∃ headers : List Header, before = headers.map .ok := by
  have hno : ∀ e, Except.error e ∉ before := by
    intro e he
    have hmem : Except.error e ∈ found.map (Except.ok : Container → Except Fault Container) := by
      rw [h]
      exact List.mem_append_left _ (List.mem_flatMap.2 ⟨.error e, he, List.mem_singleton.2 rfl⟩)
    simp at hmem
  clear h
  induction before with
  | nil => exact ⟨[], rfl⟩
  | cons source before ih =>
    obtain ⟨headers, hheaders⟩ := ih fun e he => hno e (by simp [he])
    cases source with
    | error e => exact absurd List.mem_cons_self (hno e)
    | ok header => exact ⟨header :: headers, by rw [hheaders, List.map_cons]⟩

theorem exists_attempts (h : Stops sources found f) :
    ∃ rest, sources.flatMap Source.attempts = found.map .ok ++ .error f :: rest := by
  cases h with
  | unreadable before rest hsources hfound =>
    subst hsources
    refine ⟨rest.flatMap Source.attempts, ?_⟩
    rw [List.flatMap_append, flatMap_attempts, hfound, List.flatMap_cons]
    rfl
  | incomplete before h rest front i after field others hsources hdeclarations hmissing hfault
      hfound =>
    subst hsources
    have hread : i.read = .error f :=
      i.asksFor_read.eq_error_iff.2 ⟨field, others, hmissing, hfault⟩
    have hattempts : Source.attempts (.ok h) =
        front.map Header.Declaration.read ++ .error f :: after.map Header.Declaration.read := by
      rw [Source.attempts, h.attempts_eq, hdeclarations, List.map_append, List.map_cons, hread]
    refine ⟨after.map Header.Declaration.read ++ rest.flatMap Source.attempts, ?_⟩
    rw [List.flatMap_append, flatMap_attempts, List.flatMap_cons, hattempts, ← hfound,
      List.map_append]
    simp only [List.append_assoc, List.cons_append]

theorem of_attempts {rest : List (Except Fault Container)}
    (h : sources.flatMap Source.attempts = found.map .ok ++ .error f :: rest) :
    Stops sources found f := by
  obtain ⟨before, source, after, front, tail, rfl, hsource, hfound⟩ :=
    exists_of_flatMap_eq_append_cons h
  obtain ⟨headers, rfl⟩ := exists_headers hfound
  rw [flatMap_attempts] at hfound
  cases source with
  | error e =>
    have hcons : [Except.error e] = front ++ Except.error f :: tail := hsource
    cases front with
    | cons a front => simp at hcons
    | nil =>
      obtain ⟨rfl, -⟩ : e = f ∧ tail = [] := by simpa [eq_comm] using hcons
      exact .unreadable headers after rfl (by simpa using hfound.symm)
  | ok header =>
    have hmap : header.declarations.map Header.Declaration.read = front ++ .error f :: tail := by
      rw [← header.attempts_eq]
      exact hsource
    obtain ⟨read, unread, hdeclarations, rfl, hunread⟩ := List.map_eq_append_iff.1 hmap
    obtain ⟨i, behind, rfl, hi, -⟩ := List.map_eq_cons_iff.1 hunread
    obtain ⟨field, others, hmissing, hfault⟩ := i.asksFor_read.eq_error_iff.1 hi
    refine .incomplete headers header after read i behind field others rfl hdeclarations hmissing
      hfault ?_
    rw [List.map_append]
    exact hfound.symm

/-- The readings up to the one at which it stops. -/
theorem iff_attempts :
    Stops sources found f ↔
      ∃ rest, sources.flatMap Source.attempts = found.map .ok ++ .error f :: rest :=
  ⟨exists_attempts, fun ⟨_, h⟩ => of_attempts h⟩

end Stops

namespace Diagram

/-- Reading sources adds the containers that were read, whether it stops or not. -/
theorem readAll_eq_collect (d : Diagram) (sources : List Source) :
    d.readAll sources =
      ({ d with objects := d.objects ++ (collect (sources.flatMap Source.attempts)).1 },
        (collect (sources.flatMap Source.attempts)).2) := by
  induction sources generalizing d with
  | nil => simp [readAll, collect]
  | cons source sources ih =>
    have hread : d.read source =
        ({ d with objects := d.objects ++ (collect source.attempts).1 },
          (collect source.attempts).2) := by
      cases source with
      | error f => simp [read, Source.attempts, collect]
      | ok h => rfl
    rw [readAll, hread, List.flatMap_cons]
    cases hfault : (collect source.attempts).2 with
    | some f =>
      rw [collect_append_of_some _ _ hfault, hfault]
      rfl
    | none =>
      rw [collect_append _ _ hfault, Result.andThen_none, ih]
      simp only [List.append_assoc]

theorem readAll_eq_some_iff {d d' : Diagram} {sources : List Source} {f : Fault} :
    d.readAll sources = (d', some f) ↔
      ∃ found, Stops sources found f ∧ d' = { d with objects := d.objects ++ found } := by
  rw [readAll_eq_collect]
  constructor
  · intro h
    obtain ⟨hd, hf⟩ := Prod.mk.inj h
    have hcollect : collect (sources.flatMap Source.attempts) =
        ((collect (sources.flatMap Source.attempts)).1, some f) := Prod.ext rfl hf
    exact ⟨_, Stops.iff_attempts.2 (collect_eq_some_iff.1 hcollect), hd.symm⟩
  · rintro ⟨found, hstops, rfl⟩
    rw [collect_eq_some_iff.2 (Stops.iff_attempts.1 hstops)]

theorem add_eq_readAll (d : Diagram) (sources : List Source) :
    d.add sources = d.readAll sources := by
  unfold add build
  cases hread : d.readAll sources with
  | mk d' fault =>
    cases fault with
    | none => simp [hread]
    | some f => simp [hread, Result.andThen]

theorem create_of_stops (withDependencies : Bool) (d : Diagram) {sources : List Source}
    {found : List Container} {f : Fault} (h : Stops sources found f) :
    d.create withDependencies sources = ({ objects := found }, some f) := by
  have hread : ({} : Diagram).readAll sources = ({ objects := found }, some f) :=
    readAll_eq_some_iff.2 ⟨found, h, rfl⟩
  unfold create build
  rw [if_pos rfl, hread]
  rfl

/-- Adding sources fails exactly if reading them stops. The containers from before are then followed
by those that were read until then, and the links are the ones from before. A diagram that was to
be made of the sources alone has the same containers without those from before, and no links. -/
theorem interrupted_state (sources : List Source) :
    (∀ (d d' : Diagram) (f : Fault), d.add sources = (d', some f) ↔
      ∃ found, Stops sources found f ∧ d' = { d with objects := d.objects ++ found }) ∧
    ∀ (withDependencies : Bool) (d : Diagram) (found : List Container) (f : Fault),
      Stops sources found f →
      d.create withDependencies sources = ({ objects := found }, some f) := by
  constructor
  · intro d d' f
    rw [add_eq_readAll]
    exact readAll_eq_some_iff
  · intro withDependencies d found f hstops
    exact create_of_stops withDependencies d hstops

/-- A class `A`, then a class `B` with nested enumerations `E`, `F` and `G`, of which the last has a
value without a name, then a class `C`, and a source without declarations. -/
def halfNamed : List Source :=
  let plain : Header.ClassDecl :=
    { declarationMethod := some "class".toList, abstract := some false, template := none
      inherits := some [], place := { written := [], enclosing := [] }
      properties := some { privatePart := some [], publicPart := some [], protectedPart := some [] }
      methods := some { privatePart := some [], publicPart := some [], protectedPart := some [] }
      enums := none }
  let choice (name : Text) (values : List (Option Text)) : Header.EnumDecl :=
    { name := some name, place := { written := [], enclosing := [some []] }, values }
  let choices : Header.Sections Header.EnumDecl :=
    { privatePart := some [choice "E".toList [some "e".toList], choice "F".toList []]
      publicPart := some []
      protectedPart := some [choice "G".toList [some "g".toList, none]] }
  [.ok { classes := [("A".toList, plain)], enums := [] },
    .ok { classes := [("B".toList, { plain with enums := some choices }), ("C".toList, plain)]
          enums := [] },
    .error .noObjects]

/-- A diagram with a class and a link keeps both, and gets what stands in front of the value without
a name. -/
theorem interrupted_state_halfNamed :
    ∃ (d : Diagram) (found : List Container),
      d.names = ["X".toList] ∧ d.inheritance.length = 1 ∧
      Stops halfNamed found (.missingField .name) ∧
      found.map Container.name = ["A".toList, "B".toList, "B::E".toList, "B::F".toList] ∧
      d.add halfNamed = ({ d with objects := d.objects ++ found }, some (.missingField .name)) ∧
      d.create true halfNamed = ({ objects := found }, some (.missingField .name)) := by
  have hstops : ∃ found, Stops halfNamed found (.missingField .name) ∧
      found.map Container.name = ["A".toList, "B".toList, "B::E".toList, "B::F".toList] := by
    refine ⟨[_, _, _, _], .incomplete [_] _ [.error .noObjects]
      [.classifier _ _, .nested _ _, .nested _ _] (.nested _ _) [.classifier _ _] .name []
      rfl rfl rfl rfl rfl, ?_⟩
    decide +kernel
  obtain ⟨found, hstops, hnames⟩ := hstops
  exact ⟨(({} : Diagram).create true [.ok (.ofClass "X".toList [] ["X".toList] [])]).1, found,
    by decide +kernel, by decide +kernel, hstops, hnames,
    ((interrupted_state halfNamed).1 _ _ _).2 ⟨found, hstops, rfl⟩,
    (interrupted_state halfNamed).2 _ _ _ _ hstops⟩

end Diagram

end ClassDiagram
