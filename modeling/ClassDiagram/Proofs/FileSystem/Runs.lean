import ClassDiagram.FileSystem.Drawing
import ClassDiagram.Proofs.Diagram.Interruption
import ClassDiagram.Proofs.FileSystem.Writing
import ClassDiagram.Proofs.Text.Sorting
import Mathlib.Data.List.Forall2

/-!
# Runs that write a diagram

A run finds paths, reads the files there as headers, makes containers and links of the declarations,
draws the diagram and opens the output path, in this order. Each of these can stop it, and `Raises`
says by which fault, from the texts of the files and the answers of the surroundings alone. Since the
output path is opened last, a run that stops has changed no file, whatever stopped it
(`draw_all_or_nothing`).
-/
namespace ClassDiagram
open Text

namespace FileSystem
variable {fs : FileSystem} {keepsBase : Bool} {inputs : List Text}

theorem expand_eq_ok (fs : FileSystem) (keepsBase : Bool) {w : Text}
    (h : ¬listsUnusable w = true) :
    fs.expand keepsBase w =
      .ok ((expandWithin keepsBase fs (w.length + 1) false w).filter (· ≠ [])) := by
  rw [expand, if_neg h]

theorem expand_failsOnly (w : Text) :
    FailsOnly (· = .unusablePath) (fs.expand keepsBase w) := by
  unfold expand
  intro f hf
  split at hf
  · exact (Except.error.inj hf).symm
  · simp at hf

/-- Paths cannot be expanded exactly if one of them lists a directory that cannot be. -/
theorem expandAll_eq_error_iff {f : Fault} :
    fs.expandAll keepsBase inputs = .error f ↔
      (∃ w ∈ inputs, listsUnusable w = true) ∧ f = .unusablePath := by
  have honly : FailsOnly (· = .unusablePath) (inputs.mapM (fs.expand keepsBase)) :=
    .mapM fun w _ => expand_failsOnly w
  unfold expandAll
  cases hlists : inputs.mapM (fs.expand keepsBase) with
  | error e =>
    obtain rfl : e = .unusablePath := honly e hlists
    have hunusable : ∃ w ∈ inputs, listsUnusable w = true := by
      by_contra! husable
      have hok := mapM_eq_ok fun w hw => fs.expand_eq_ok keepsBase (husable w hw)
      rw [hlists] at hok
      nomatch hok
    rw [error_bind, Except.error.injEq, eq_comm]
    exact ⟨fun h => ⟨hunusable, h⟩, fun h => h.2⟩
  | ok lists =>
    simp only [ok_bind, pure_eq_ok, reduceCtorEq, false_iff, not_and]
    rintro ⟨w, hw, hunusable⟩
    obtain ⟨paths, -, hpaths⟩ := exists_mem_of_mapM hlists hw
    rw [expand, if_pos hunusable] at hpaths
    nomatch hpaths

theorem mem_of_expandAll {found : List Text} (h : fs.expandAll keepsBase inputs = .ok found)
    (path : Text) :
    path ∈ found ↔ ∃ w ∈ inputs, ∃ paths, fs.expand keepsBase w = .ok paths ∧ path ∈ paths := by
  obtain ⟨lists, hlists, h⟩ := bind_eq_ok_iff.1 h
  obtain rfl : lists.flatten = found := Except.ok.inj h
  rw [List.mem_flatten]
  constructor
  · rintro ⟨paths, hpaths, hpath⟩
    obtain ⟨w, hw, hexpand⟩ := exists_of_mem_mapM hlists hpaths
    exact ⟨w, hw, paths, hexpand, hpath⟩
  · rintro ⟨w, hw, paths, hexpand, hpath⟩
    obtain ⟨paths', hpaths', hexpand'⟩ := exists_mem_of_mapM hlists hw
    obtain rfl : paths' = paths := Except.ok.inj (hexpand'.symm.trans hexpand)
    exact ⟨paths', hpaths', hpath⟩

section
variable {parse : Text → Text → Except Text Header} {path : Text}

theorem readHeader_eq_ok_iff {h : Header} :
    fs.readHeader parse path = .ok h ↔ ∃ t, fs.read path = .ok t ∧ parse path t = .ok h := by
  unfold readHeader
  cases fs.read path with
  | error f => simp
  | ok t => cases hparse : parse path t <;> simp [hparse, Except.mapError]

theorem readHeader_eq_error_iff {f : Fault} :
    fs.readHeader parse path = .error f ↔
      fs.read path = .error f ∨
        ∃ t reason, fs.read path = .ok t ∧ parse path t = .error reason ∧
          f = .unparsable reason := by
  unfold readHeader
  cases fs.read path with
  | error e => simp
  | ok t => cases hparse : parse path t <;> simp [hparse, Except.mapError, eq_comm]

end

end FileSystem

namespace Surroundings
open FileSystem

section
variable (s : Surroundings) (fs : FileSystem)

/-- The paths that some patterns stand for, each of them once, in the order in which they are read.
-/
structure Finds (inputs paths : List Text) : Prop where
  ordered : ∃ found, fs.expandAll s.keepsBase inputs = .ok found ∧ paths = s.order found
  nodup : paths.Nodup
  mem_iff : ∀ path, path ∈ paths ↔
    ∃ w ∈ inputs, ∃ expanded, fs.expand s.keepsBase w = .ok expanded ∧ path ∈ expanded

/-- The texts at some paths are parsed as headers. -/
def Reads : List Text → List Header → Prop :=
  List.Forall₂ fun path h => ∃ t, fs.read path = .ok t ∧ s.parse path t = .ok h

/-- The files at some paths are read as headers, and every declaration in them gives a container. -/
def Yields (paths : List Text) (objects : List Container) : Prop :=
  ∃ headers, s.Reads fs paths headers ∧
    (headers.flatMap Header.declarations).map Header.Declaration.read = objects.map .ok

variable (settings : Settings) (inputs : List Text)

/-- The diagram of the files at all paths, with all links made, in order. -/
def Builds (d : Diagram) : Prop :=
  ∃ paths objects linked, s.Finds fs inputs paths ∧ s.Yields fs paths objects ∧
    ({ objects } : Diagram).buildLinks settings.withDependencies = (linked, none) ∧ d = linked.sort

/-- The text of that diagram. -/
def Draws (t : Text) : Prop :=
  ∃ d, s.Builds fs settings inputs d ∧ s.renderDiagram fs settings d = .ok t

/-- What stops a run before it has a text. -/
inductive Raises : Fault → Prop where
  /-- A directory with an unusable name is to be listed. -/
  | pattern {w : Text} (hw : w ∈ inputs) (hunusable : listsUnusable w = true) : Raises .unusablePath
  /-- A file cannot be read, after others that gave containers. -/
  | unreadable {before after : List Text} {path : Text} {objects : List Container} {f : Fault}
      (hpaths : s.Finds fs inputs (before ++ path :: after)) (hbefore : s.Yields fs before objects)
      (hread : fs.read path = .error f) : Raises f
  | unparsable {before after : List Text} {path t reason : Text} {objects : List Container}
      (hpaths : s.Finds fs inputs (before ++ path :: after)) (hbefore : s.Yields fs before objects)
      (hread : fs.read path = .ok t) (hparse : s.parse path t = .error reason) :
      Raises (.unparsable reason)
  | incomplete {before after : List Text} {path t : Text} {objects : List Container} {h : Header}
      {front rest : List Header.Declaration} {i : Header.Declaration} {field : Header.Field}
      {others : List Header.Field}
      (hpaths : s.Finds fs inputs (before ++ path :: after)) (hbefore : s.Yields fs before objects)
      (hread : fs.read path = .ok t) (hparse : s.parse path t = .ok h)
      (hdeclarations : h.declarations = front ++ i :: rest) (hfront : ∀ j ∈ front, j.missing = [])
      (hmissing : i.missing = field :: others) : Raises (.missingField field)
  | links {paths : List Text} {objects : List Container} {linked : Diagram} {f : Fault}
      (hpaths : s.Finds fs inputs paths) (hobjects : s.Yields fs paths objects)
      (hlinks : ({ objects } : Diagram).buildLinks settings.withDependencies = (linked, some f)) :
      Raises f
  /-- There is no template, or it cannot be read. -/
  | template {d : Diagram} {f : Fault} (hbuilds : s.Builds fs settings inputs d)
      (hfind : fs.findTemplate settings.template (templateName settings) = .error f)
      (hdescribed : f ≠ .template .beyond) : Raises f
  /-- The template cannot be filled in, or what it shows cannot be drawn. -/
  | rendering {d : Diagram} {t : Template} {f : Fault} (hbuilds : s.Builds fs settings inputs d)
      (hfind : fs.findTemplate settings.template (templateName settings) = .ok t)
      (hdraw : t.draw (fs.findTemplate settings.template) (d.context settings.withDependencies)
        extensionLimit = .error f)
      (hdescribed : f ≠ .template .beyond) : Raises f
  /-- A template beyond the described language shows nothing. -/
  | otherTemplate {d : Diagram} {reason : Text} (hbuilds : s.Builds fs settings inputs d)
      (hbeyond : fs.renderDiagram settings d = .error (.template .beyond))
      (hother : s.showOther fs settings d = .error reason) : Raises (.otherTemplate reason)

/-- A path can be opened for writing and leads to a place. -/
def Opens (path : Text) (p : List Text) : Prop := fs.LeadsTo path p ∧ s.refusal fs p = none

/-- What stops a run with an output path. -/
inductive Fails (path : Text) (f : Fault) : Prop where
  | drawing (h : s.Raises fs settings inputs f)
  /-- There is a text, but the path cannot be opened. -/
  | output {t : Text} (htext : s.Draws fs settings inputs t) (hclosed : ∀ p, ¬s.Opens fs path p)
      (hopen : fs.openFile (s.refusal fs) path = .error f)

end

variable {s : Surroundings} {fs : FileSystem} {settings : Settings} {inputs paths : List Text}
  {objects : List Container} {d : Diagram} {f : Fault}

theorem finds_of_order {found : List Text} (h : fs.expandAll s.keepsBase inputs = .ok found) :
    s.Finds fs inputs (s.order found) where
  ordered := ⟨found, h, rfl⟩
  nodup := (s.order_perm found).nodup_iff.2 (nodup_eraseDups found)
  mem_iff path := by
    rw [(s.order_perm found).mem_iff, List.mem_eraseDups]
    exact mem_of_expandAll h path

theorem reads_iff {headers : List Header} :
    s.Reads fs paths headers ↔ paths.map (fs.readHeader s.parse) = headers.map .ok := by
  unfold Reads
  induction paths generalizing headers with
  | nil => cases headers <;> simp
  | cons path paths ih =>
    cases headers with
    | nil => simp
    | cons h headers =>
      rw [List.forall₂_cons, ih, List.map_cons, List.map_cons, List.cons.injEq,
        readHeader_eq_ok_iff]

theorem yields_iff :
    s.Yields fs paths objects ↔
      collect ((paths.map (fs.readHeader s.parse)).flatMap Source.attempts) = (objects, none) := by
  rw [collect_eq_none_iff, Yields]
  constructor
  · rintro ⟨headers, hreads, hobjects⟩
    rw [reads_iff.1 hreads, Stops.flatMap_attempts]
    exact hobjects
  · intro h
    obtain ⟨headers, hheaders⟩ := Stops.exists_headers (h.symm.trans (List.append_nil _).symm)
    rw [hheaders, Stops.flatMap_attempts] at h
    exact ⟨headers, reads_iff.2 hheaders, h⟩

/-- The path at which a row of sources stops being headers. -/
theorem exists_path {before : List Header} {source : Source} {rest : List Source}
    (h : paths.map (fs.readHeader s.parse) = before.map .ok ++ source :: rest) :
    ∃ front path after, paths = front ++ path :: after ∧ s.Reads fs front before ∧
      fs.readHeader s.parse path = source := by
  obtain ⟨front, behind, rfl, hfront, hbehind⟩ := List.map_eq_append_iff.1 h
  obtain ⟨path, after, rfl, hpath, -⟩ := List.map_eq_cons_iff.1 hbehind
  exact ⟨front, path, after, rfl, reads_iff.2 hfront, hpath⟩

theorem missing_eq_nil_of_read {i : Header.Declaration} {c : Container} (h : i.read = .ok c) :
    i.missing = [] := by
  have hasks := i.asksFor_read
  cases hmissing : i.missing with
  | nil => rfl
  | cons field others =>
    have herror := hasks.eq_error_iff.2 ⟨field, others, hmissing, rfl⟩
    rw [h] at herror
    nomatch herror

/-- Declarations that lack nothing give containers. -/
theorem exists_objects {declarations : List Header.Declaration}
    (h : ∀ i ∈ declarations, i.missing = []) :
    ∃ objects : List Container, declarations.map Header.Declaration.read = objects.map .ok := by
  induction declarations with
  | nil => exact ⟨[], rfl⟩
  | cons i declarations ih =>
    obtain ⟨objects, hobjects⟩ := ih fun j hj => h j (by simp [hj])
    have hasks := i.asksFor_read
    rw [h i (by simp)] at hasks
    obtain ⟨c, hc⟩ := hasks
    exact ⟨c :: objects, by rw [List.map_cons, hc, hobjects, List.map_cons]⟩

/-- Where reading stops, a file cannot be read or parsed, or a declaration lacks a field. -/
theorem raises_of_stops (hfinds : s.Finds fs inputs paths) {found : List Container}
    (hstops : Stops (paths.map (fs.readHeader s.parse)) found f) :
    s.Raises fs settings inputs f := by
  cases hstops with
  | unreadable before rest hsources hfound =>
    obtain ⟨front, path, after, rfl, hfront, hpath⟩ := exists_path hsources
    have hbefore : s.Yields fs front found := ⟨before, hfront, hfound⟩
    rcases readHeader_eq_error_iff.1 hpath with hread | ⟨t, reason, hread, hparse, rfl⟩
    · exact .unreadable hfinds hbefore hread
    · exact .unparsable hfinds hbefore hread hparse
  | incomplete before h rest front i after field others hsources hdeclarations hmissing hfault
      hfound =>
    subst hfault
    obtain ⟨paths, path, behind, rfl, hpaths, hpath⟩ := exists_path hsources
    obtain ⟨t, hread, hparse⟩ := readHeader_eq_ok_iff.1 hpath
    rw [List.map_append] at hfound
    obtain ⟨objects, more, rfl, hobjects, hmore⟩ := List.map_eq_append_iff.1 hfound.symm
    have hbefore : s.Yields fs paths objects := ⟨before, hpaths, hobjects.symm⟩
    refine .incomplete hfinds hbefore hread hparse hdeclarations (fun j hj => ?_) hmissing
    obtain ⟨c, -, hc⟩ := List.mem_map.1 (hmore ▸ List.mem_map_of_mem hj)
    exact missing_eq_nil_of_read hc.symm

/-- A file behind others that gave containers stops the reading if it cannot be read or parsed. -/
theorem stops_of_readHeader {before after : List Text} {path : Text}
    (hbefore : s.Yields fs before objects) (hpath : fs.readHeader s.parse path = .error f) :
    Stops ((before ++ path :: after).map (fs.readHeader s.parse)) objects f := by
  obtain ⟨headers, hreads, hobjects⟩ := hbefore
  refine .unreadable headers (after.map (fs.readHeader s.parse)) ?_ hobjects
  rw [List.map_append, List.map_cons, hpath, reads_iff.1 hreads]

theorem stops_of_missing {before after : List Text} {path t : Text} {h : Header}
    {front rest : List Header.Declaration} {i : Header.Declaration} {field : Header.Field}
    {others : List Header.Field} (hbefore : s.Yields fs before objects)
    (hread : fs.read path = .ok t) (hparse : s.parse path t = .ok h)
    (hdeclarations : h.declarations = front ++ i :: rest) (hfront : ∀ j ∈ front, j.missing = [])
    (hmissing : i.missing = field :: others) :
    ∃ found, Stops ((before ++ path :: after).map (fs.readHeader s.parse)) found
      (.missingField field) := by
  obtain ⟨headers, hreads, hobjects⟩ := hbefore
  obtain ⟨more, hmore⟩ := exists_objects hfront
  have hpath := readHeader_eq_ok_iff.2 ⟨t, hread, hparse⟩
  refine ⟨objects ++ more, .incomplete headers h (after.map (fs.readHeader s.parse)) front i rest
    field others ?_ hdeclarations hmissing rfl ?_⟩
  · rw [List.map_append, List.map_cons, hpath, reads_iff.1 hreads]
  · rw [List.map_append, List.map_append, hobjects, hmore]

theorem create_of_yields (withDependencies : Bool) (h : s.Yields fs paths objects) :
    Diagram.create withDependencies (paths.map (fs.readHeader s.parse)) {} =
      (({ objects } : Diagram).buildLinks withDependencies).andThen fun d => (d.sort, none) := by
  unfold Diagram.create Diagram.build
  rw [if_pos rfl, Diagram.readAll_eq_collect, yields_iff.1 h]
  rfl

theorem drawing_of_stops (hfinds : s.Finds fs inputs paths) {found : List Container}
    (hstops : Stops (paths.map (fs.readHeader s.parse)) found f) :
    s.drawing fs settings inputs = .error f := by
  obtain ⟨all, hall, rfl⟩ := hfinds.ordered
  rw [drawing, hall, ok_bind, Diagram.create_of_stops settings.withDependencies {} hstops]

theorem drawing_of_links (hfinds : s.Finds fs inputs paths) (hyields : s.Yields fs paths objects)
    {linked : Diagram}
    (hlinks : ({ objects } : Diagram).buildLinks settings.withDependencies = (linked, some f)) :
    s.drawing fs settings inputs = .error f := by
  obtain ⟨all, hall, rfl⟩ := hfinds.ordered
  rw [drawing, hall, ok_bind, create_of_yields settings.withDependencies hyields, hlinks]
  rfl

theorem Builds.drawing_eq (h : s.Builds fs settings inputs d) :
    s.drawing fs settings inputs = s.renderDiagram fs settings d := by
  obtain ⟨paths, objects, linked, hfinds, hyields, hlinks, rfl⟩ := h
  obtain ⟨all, hall, rfl⟩ := hfinds.ordered
  rw [drawing, hall, ok_bind, create_of_yields settings.withDependencies hyields, hlinks]
  rfl

/-- The stages of a run up to the drawing: it stops, or it comes to a diagram. -/
theorem raises_or_builds (s : Surroundings) (fs : FileSystem) (settings : Settings)
    (inputs : List Text) :
    (∃ f, s.Raises fs settings inputs f ∧ s.drawing fs settings inputs = .error f) ∨
      ∃ d, s.Builds fs settings inputs d := by
  cases hall : fs.expandAll s.keepsBase inputs with
  | error f =>
    obtain ⟨⟨w, hw, hunusable⟩, rfl⟩ := expandAll_eq_error_iff.1 hall
    exact .inl ⟨_, .pattern hw hunusable, by rw [drawing, hall, error_bind]⟩
  | ok all =>
    have hfinds := finds_of_order hall
    rcases hcollect : collect (((s.order all).map (fs.readHeader s.parse)).flatMap
      Source.attempts) with ⟨objects, _ | f⟩
    · have hyields := yields_iff.2 hcollect
      rcases hlinks : ({ objects } : Diagram).buildLinks settings.withDependencies with
        ⟨linked, _ | f⟩
      · exact .inr ⟨linked.sort, _, _, linked, hfinds, hyields, hlinks, rfl⟩
      · exact .inl ⟨f, .links hfinds hyields hlinks, drawing_of_links hfinds hyields hlinks⟩
    · have hstops := Stops.iff_attempts.2 (collect_eq_some_iff.1 hcollect)
      exact .inl ⟨f, raises_of_stops hfinds hstops, drawing_of_stops hfinds hstops⟩

section
variable (s : Surroundings) (fs : FileSystem) (settings : Settings)

theorem renderDiagram_eq_of_ne {d : Diagram}
    (h : fs.renderDiagram settings d ≠ .error (.template .beyond)) :
    s.renderDiagram fs settings d = fs.renderDiagram settings d := by
  unfold renderDiagram
  split
  · contradiction
  · rfl

theorem renderDiagram_eq_of_beyond {d : Diagram}
    (h : fs.renderDiagram settings d = .error (.template .beyond)) :
    s.renderDiagram fs settings d = (s.showOther fs settings d).mapError .otherTemplate := by
  unfold renderDiagram
  rw [h]

end

theorem Raises.drawing_eq (h : s.Raises fs settings inputs f) :
    s.drawing fs settings inputs = .error f := by
  have hdescribed : ∀ {d g}, s.Builds fs settings inputs d → g ≠ .template .beyond →
      fs.renderDiagram settings d = .error g → s.drawing fs settings inputs = .error g := by
    intro d g hbuilds hne hrender
    rw [hbuilds.drawing_eq, renderDiagram_eq_of_ne _ _ _ (by simpa [hrender] using hne), hrender]
  cases h with
  | pattern hw hunusable =>
    have hall : fs.expandAll s.keepsBase inputs = .error .unusablePath :=
      expandAll_eq_error_iff.2 ⟨⟨_, hw, hunusable⟩, rfl⟩
    rw [drawing, hall, error_bind]
  | unreadable hpaths hbefore hread =>
    exact drawing_of_stops hpaths (stops_of_readHeader hbefore
      (readHeader_eq_error_iff.2 (.inl hread)))
  | unparsable hpaths hbefore hread hparse =>
    exact drawing_of_stops hpaths (stops_of_readHeader hbefore
      (readHeader_eq_error_iff.2 (.inr ⟨_, _, hread, hparse, rfl⟩)))
  | incomplete hpaths hbefore hread hparse hdeclarations hfront hmissing =>
    obtain ⟨found, hstops⟩ :=
      stops_of_missing hbefore hread hparse hdeclarations hfront hmissing
    exact drawing_of_stops hpaths hstops
  | links hpaths hobjects hlinks => exact drawing_of_links hpaths hobjects hlinks
  | template hbuilds hfind hne =>
    refine hdescribed hbuilds hne ?_
    rw [FileSystem.renderDiagram, hfind, error_bind]
  | rendering hbuilds hfind hdraw hne =>
    refine hdescribed hbuilds hne ?_
    rw [FileSystem.renderDiagram, hfind, ok_bind, hdraw]
  | otherTemplate hbuilds hbeyond hother =>
    rw [hbuilds.drawing_eq, renderDiagram_eq_of_beyond _ _ _ hbeyond, hother]
    rfl

/-- A diagram that is there is drawn, or the drawing is what stops the run. -/
theorem Builds.raises (h : s.Builds fs settings inputs d)
    (hrender : s.renderDiagram fs settings d = .error f) : s.Raises fs settings inputs f := by
  by_cases hbeyond : fs.renderDiagram settings d = .error (.template .beyond)
  · rw [renderDiagram_eq_of_beyond _ _ _ hbeyond] at hrender
    cases hother : s.showOther fs settings d with
    | ok t => simp [hother] at hrender
    | error reason =>
      obtain rfl : .otherTemplate reason = f := by simpa [hother, Except.mapError] using hrender
      exact .otherTemplate h hbeyond hother
  · rw [renderDiagram_eq_of_ne _ _ _ hbeyond] at hrender
    have hne : f ≠ .template .beyond := by
      rintro rfl
      exact hbeyond hrender
    rw [FileSystem.renderDiagram] at hrender
    cases hfind : fs.findTemplate settings.template (templateName settings) with
    | error g =>
      obtain rfl : g = f := by simpa [hfind] using hrender
      exact .template h hfind hne
    | ok t => exact .rendering h hfind (by simpa [hfind] using hrender) hne

theorem drawing_eq_error_iff :
    s.drawing fs settings inputs = .error f ↔ s.Raises fs settings inputs f := by
  refine ⟨fun h => ?_, Raises.drawing_eq⟩
  obtain ⟨g, hraises, hg⟩ | ⟨d, hbuilds⟩ := raises_or_builds s fs settings inputs
  · obtain rfl : g = f := Except.error.inj (hg.symm.trans h)
    exact hraises
  · exact hbuilds.raises (hbuilds.drawing_eq.symm.trans h)

theorem drawing_eq_ok_iff {t : Text} :
    s.drawing fs settings inputs = .ok t ↔ s.Draws fs settings inputs t := by
  constructor
  · intro h
    obtain ⟨g, -, hg⟩ | ⟨d, hbuilds⟩ := raises_or_builds s fs settings inputs
    · rw [h] at hg
      nomatch hg
    · exact ⟨d, hbuilds, hbuilds.drawing_eq.symm.trans h⟩
  · rintro ⟨d, hbuilds, hrender⟩
    exact hbuilds.drawing_eq.trans hrender

theorem Raises.draw_eq (h : s.Raises fs settings inputs f) (output : Option Text) :
    s.draw fs settings inputs output = { outcome := .error f, files := fs } := by
  rw [draw, h.drawing_eq]

section
variable {path t : Text} {p : List Text}

theorem Fails.draw_eq (h : s.Fails fs settings inputs path f) :
    s.draw fs settings inputs (some path) = { outcome := .error f, files := fs } := by
  cases h with
  | drawing h => exact h.draw_eq (some path)
  | output htext hclosed hopen =>
    rw [draw, drawing_eq_ok_iff.2 htext]
    simp only [hopen]

theorem Draws.draw_eq (h : s.Draws fs settings inputs t) (hopens : s.Opens fs path p) :
    s.draw fs settings inputs (some path) = { outcome := .ok 0, files := fs.put p t } := by
  rw [draw, drawing_eq_ok_iff.2 h]
  simp only [openFile_eq_ok_iff.2 hopens]

end

theorem fails_or_draws (s : Surroundings) (fs : FileSystem) (settings : Settings)
    (inputs : List Text) (path : Text) :
    (∃ f, s.Fails fs settings inputs path f) ∨
      ∃ t p, s.Draws fs settings inputs t ∧ s.Opens fs path p := by
  cases hdrawing : s.drawing fs settings inputs with
  | error f => exact .inl ⟨f, .drawing (drawing_eq_error_iff.1 hdrawing)⟩
  | ok t =>
    have hdraws := drawing_eq_ok_iff.1 hdrawing
    cases hopen : fs.openFile (s.refusal fs) path with
    | ok p => exact .inr ⟨t, p, hdraws, openFile_eq_ok_iff.1 hopen⟩
    | error f =>
      refine .inl ⟨f, .output hdraws (fun p hp => ?_) hopen⟩
      rw [openFile_eq_ok_iff.2 hp] at hopen
      nomatch hopen

/-- Surroundings in which one text is a header with a class `A`, the paths that are found last are
read first, and every place may be written to. -/
def singleHeader : Surroundings where
  parse _ t :=
    if t = "class A \x7b\x7d;\n".toList then .ok (.ofClass "A".toList [] [] []) else .error []
  keepsBase := false
  order paths := paths.eraseDups.reverse
  order_perm paths := List.reverse_perm paths.eraseDups
  showOther _ _ _ := .error []
  refusal _ _ := none

/-- That header, a directory named like one, and the output of an earlier run. -/
def redrawn : FileSystem where
  files := [(["a.hpp".toList], "class A \x7b\x7d;\n".toList),
    (["out".toList, "a.puml".toList], "old".toList)]
  folders := [["b.hpp".toList]]

end Surroundings

end ClassDiagram
