import ClassDiagram.FileSystem.Basic
import Mathlib.Data.List.Basic

/-!
# Writing a file

A written path that can be opened for writing leads to a place: a file is there already, or it is
vacant. In both cases the walk along any path that led to a file leads there still, since no place on
the way to a file is the new one. So the written text can be read back, and every other file is as it
was (`LeadsTo.written`).
-/
namespace ClassDiagram
open Text

namespace Text

theorem splitAtChar_ne_nil (sep : Char) (t : Text) : splitAtChar sep t ≠ [] := by
  cases t with
  | nil => simp [splitAtChar]
  | cons c r =>
    simp only [splitAtChar]
    split
    · simp
    · split <;> simp

/-- The last piece of a text is empty only behind a separator. -/
theorem getLast?_splitAtChar_ne {sep : Char} {t : Text} (hne : t ≠ []) (h : t.getLast? ≠ some sep) :
    (splitAtChar sep t).getLast? ≠ some [] := by
  induction t with
  | nil => exact absurd rfl hne
  | cons c r ih =>
    cases r with
    | nil =>
      have hc : c ≠ sep := by simpa using h
      simp [splitAtChar, hc]
    | cons d r =>
      have hlast : (d :: r).getLast? ≠ some sep := by rwa [List.getLast?_cons_cons] at h
      have hrest := ih (by simp) hlast
      have hsplit := splitAtChar_ne_nil sep (d :: r)
      unfold splitAtChar
      revert hrest hsplit
      generalize splitAtChar sep (d :: r) = pieces
      intro hrest hsplit
      cases pieces with
      | nil => exact absurd rfl hsplit
      | cons w ws =>
        by_cases hc : c = sep
        · rwa [if_pos hc, List.getLast?_cons_cons]
        · rw [if_neg hc]
          cases ws with
          | nil => simp
          | cons v ws => rwa [List.getLast?_cons_cons] at hrest ⊢

end Text

namespace FileSystem
variable {fs : FileSystem} {p q here : List Text} {components : List Text}

/-- A file that is put at a place is there, and the other ones stay. -/
theorem lookup_put (fs : FileSystem) (p q : List Text) (t : Text) :
    (fs.put p t).files.lookup q = if q = p then some t else fs.files.lookup q := by
  have hfilter : (fs.files.filter fun f => f.1 ≠ p).lookup q =
      if q = p then none else fs.files.lookup q := by
    induction fs.files with
    | nil => simp
    | cons f files ih =>
      obtain ⟨r, old⟩ := f
      by_cases hrp : r = p
      · rw [List.filter_cons_of_neg (by simp [hrp]), ih]
        by_cases hqp : q = p
        · simp [hqp]
        · have hqr : (q == r) = false := by simp [hrp, hqp]
          simp [hqp, List.lookup_cons, hqr]
      · rw [List.filter_cons_of_pos (by simp [hrp]), List.lookup_cons, List.lookup_cons, ih]
        by_cases hqr : q = r
        · simp [hqr, hrp]
        · have hne : (q == r) = false := by simp [hqr]
          simp [hne]
  unfold put
  rw [List.lookup_append, hfilter]
  by_cases hqp : q = p
  · simp [hqp]
  · have hne : (q == p) = false := by simp [hqp]
    simp [hqp, List.lookup_cons, hne]

@[simp] theorem folders_put (fs : FileSystem) (p : List Text) (t : Text) :
    (fs.put p t).folders = fs.folders := rfl

/-- Directories stay where they are. -/
theorem hasFolder_put (p : List Text) (t : Text) (h : fs.hasFolder q = true) :
    (fs.put p t).hasFolder q = true := by
  unfold hasFolder at h ⊢
  rw [folders_put]
  rw [Bool.or_eq_true] at h ⊢
  refine h.imp_right fun hany => ?_
  obtain ⟨f, hf, hq⟩ := List.any_eq_true.1 hany
  rw [List.any_eq_true]
  by_cases hfp : f.1 = p
  · refine ⟨(p, t), by simp [put], ?_⟩
    rwa [hfp] at hq
  · exact ⟨f, by simp [put, hf, hfp], hq⟩

/-- A place for a file: a file is there, or no directory. -/
def IsPlace (fs : FileSystem) (p : List Text) : Prop :=
  (fs.files.lookup p).isSome = true ∨ fs.hasFolder p = false

/-- A directory on the way is no place for a file, so the walk goes on through it. -/
theorem walk_put_of_folder (hp : fs.IsPlace p) (t : Text) {w : Text} {r : List Text}
    (hw : ¬(decide (w = []) || decide (w = ['.'])) = true) (hparent : w ≠ parentName)
    (hlong : ¬nameLimit < byteCount w) (hfile : ¬(fs.files.lookup (here ++ [w])).isSome = true)
    (hfolder : fs.hasFolder (here ++ [w]) = true) :
    (fs.put p t).walk here (w :: r) = (fs.put p t).walk (here ++ [w]) r := by
  have hne : here ++ [w] ≠ p := by
    intro heq
    subst heq
    rcases hp with hsome | hnone
    · exact hfile hsome
    · simp [hnone] at hfolder
  have hfile' : ¬((fs.put p t).files.lookup (here ++ [w])).isSome = true := by
    rwa [lookup_put, if_neg hne]
  rw [walk, if_neg hw, if_neg hparent, if_neg hlong, if_neg hfile',
    if_pos (hasFolder_put p t hfolder)]

/-- A walk to a file leads to it also after a file is put at a place. -/
theorem walk_put_of_file (hp : fs.IsPlace p) (t : Text)
    (h : fs.walk here components = .file q) :
    (fs.put p t).walk here components = .file q := by
  fun_induction walk fs here components with
  | case1 here => simp at h
  | case2 here w r hw ih => rw [walk, if_pos hw, ih h]
  | case3 here r hw ih => rw [walk, if_neg hw, if_pos rfl, ih h]
  | case4 here w r hw hparent hlong => simp at h
  | case5 here w hw hparent hlong hfile =>
    have hfile' : ((fs.put p t).files.lookup (here ++ [w])).isSome = true := by
      rw [lookup_put]
      split
      · rfl
      · exact hfile
    rw [walk, if_neg hw, if_neg hparent, if_neg hlong, if_pos hfile', if_pos rfl, h]
  | case6 here w r hw hparent hlong hfile hr => simp at h
  | case7 here w r hw hparent hlong hfile hfolder ih =>
    rw [walk_put_of_folder hp t hw hparent hlong hfile hfolder]
    exact ih h
  | case8 here w r hw hparent hlong hfile hfolder hr => simp at h
  | case9 here w r hw hparent hlong hfile hfolder hr => simp at h

/-- A walk that ends at a file or in nothing ends at a place for a file. -/
theorem isPlace_of_walk
    (h : fs.walk here components = .file p ∨ fs.walk here components = .vacant p) :
    fs.IsPlace p := by
  fun_induction walk fs here components with
  | case1 here => simp at h
  | case2 here w r hw ih => exact ih h
  | case3 here r hw ih => exact ih h
  | case4 here w r hw hparent hlong => simp at h
  | case5 here w hw hparent hlong hfile =>
    obtain rfl : here ++ [w] = p := by simpa using h
    exact .inl hfile
  | case6 here w r hw hparent hlong hfile hr => simp at h
  | case7 here w r hw hparent hlong hfile hfolder ih => exact ih h
  | case8 here w r hw hparent hlong hfile hfolder hr =>
    obtain rfl : here ++ [w] = p := by simpa using h
    exact .inr (by simpa using hfolder)
  | case9 here w r hw hparent hlong hfile hfolder hr => simp at h

theorem getLast?_tail_ne {w : Text} {r : List Text} (h : (w :: r).getLast? ≠ some []) :
    r.getLast? ≠ some [] := by
  cases r with
  | nil => simp
  | cons v r => rwa [List.getLast?_cons_cons] at h

/-- A walk that ends in nothing leads to the file that is put there, if it has no empty component at
its end. -/
theorem walk_put_of_vacant (t : Text) (hlast : components.getLast? ≠ some [])
    (h : fs.walk here components = .vacant p) :
    (fs.put p t).walk here components = .file p := by
  have hp : fs.IsPlace p := isPlace_of_walk (.inr h)
  fun_induction walk fs here components with
  | case1 here => simp at h
  | case2 here w r hw ih => rw [walk, if_pos hw, ih (getLast?_tail_ne hlast) h]
  | case3 here r hw ih => rw [walk, if_neg hw, if_pos rfl, ih (getLast?_tail_ne hlast) h]
  | case4 here w r hw hparent hlong => simp at h
  | case5 here w hw hparent hlong hfile => simp at h
  | case6 here w r hw hparent hlong hfile hr => simp at h
  | case7 here w r hw hparent hlong hfile hfolder ih =>
    rw [walk_put_of_folder hp t hw hparent hlong hfile hfolder]
    exact ih (getLast?_tail_ne hlast) h
  | case8 here w r hw hparent hlong hfile hfolder hr =>
    obtain rfl : here ++ [w] = p := by simpa using h
    have hempty : r = [] := by
      cases r with
      | nil => rfl
      | cons v r =>
        have hmem := List.getLast_mem (List.cons_ne_nil v r)
        have hnil : (v :: r).getLast (List.cons_ne_nil v r) = [] := by
          simpa using List.all_eq_true.1 hr _ hmem
        refine absurd ?_ (getLast?_tail_ne hlast)
        rw [List.getLast?_eq_some_getLast (List.cons_ne_nil v r), hnil]
    have hfile' : ((fs.put (here ++ [w]) t).files.lookup (here ++ [w])).isSome = true := by
      rw [lookup_put, if_pos rfl]
      rfl
    rw [walk, if_neg hw, if_neg hparent, if_neg hlong, if_pos hfile', if_pos hempty]
  | case9 here w r hw hparent hlong hfile hfolder hr => simp at h

/-- What is asked of a written path before the walk along it does not depend on the files. -/
theorem locate_eq_walk {path : Text} (h : fs.locate path = .file p ∨ fs.locate path = .vacant p) :
    path ≠ [] ∧
      ∀ fs' : FileSystem, fs'.locate path = fs'.walk (origin path) (splitAtChar '/' path) := by
  by_cases hchars : path.contains forbiddenChar = true
  · rw [locate, if_pos hchars] at h
    simp at h
  by_cases hempty : path = []
  · rw [locate, if_neg hchars, if_pos hempty] at h
    simp at h
  by_cases hlong : pathLimit < byteCount path
  · rw [locate, if_neg hchars, if_neg hempty, if_pos hlong] at h
    simp at h
  refine ⟨hempty, fun fs' => ?_⟩
  rw [locate, if_neg hchars, if_neg hempty, if_neg hlong]

/-- A written path leads to a place for a file. -/
def LeadsTo (fs : FileSystem) (path : Text) (p : List Text) : Prop :=
  path.getLast? ≠ some '/' ∧ (fs.locate path = .file p ∨ fs.locate path = .vacant p)

/-- Files after a text was written to a path that leads to a place. -/
structure Written (fs fs' : FileSystem) (path : Text) (p : List Text) (t : Text) : Prop where
  /-- The text can be read back. -/
  read : fs'.read path = .ok t
  /-- The file at the place is the written one, and any other file is as it was. -/
  lookup : ∀ q, fs'.files.lookup q = if q = p then some t else fs.files.lookup q
  folders : fs'.folders = fs.folders
  /-- A written path that led to another file leads to the same content. -/
  others : ∀ other q, fs.locate other = .file q → q ≠ p → fs'.read other = fs.read other

namespace LeadsTo
variable {path : Text}

theorem isPlace (h : fs.LeadsTo path p) : fs.IsPlace p := by
  have hwalk := (locate_eq_walk h.2).2 fs
  have hlocate := h.2
  rw [hwalk] at hlocate
  exact isPlace_of_walk hlocate

theorem locate_put (h : fs.LeadsTo path p) (t : Text) :
    (fs.put p t).locate path = .file p := by
  obtain ⟨hne, hwalk⟩ := locate_eq_walk h.2
  rw [hwalk]
  rcases h.2 with hfile | hvacant
  · rw [hwalk] at hfile
    exact walk_put_of_file h.isPlace t hfile
  · rw [hwalk] at hvacant
    exact walk_put_of_vacant t (getLast?_splitAtChar_ne hne h.1) hvacant

theorem written (h : fs.LeadsTo path p) (t : Text) : Written fs (fs.put p t) path p t where
  read := by
    have hlookup := lookup_put fs p p t
    rw [if_pos rfl] at hlookup
    simp [FileSystem.read, h.locate_put, hlookup]
  lookup q := lookup_put fs p q t
  folders := rfl
  others other q hother hne := by
    have hwalk := (locate_eq_walk (.inl hother)).2
    have hkept : (fs.put p t).locate other = .file q := by
      rw [hwalk] at hother ⊢
      exact walk_put_of_file h.isPlace _ hother
    simp [FileSystem.read, hother, hkept, lookup_put, hne]

end LeadsTo

/-- The paths that can be opened are those that lead to a place where writing is allowed. -/
theorem openFile_eq_ok_iff {refusal : List Text → Option Text} {path : Text} :
    fs.openFile refusal path = .ok p ↔ fs.LeadsTo path p ∧ refusal p = none := by
  have hgrant : ∀ q, grant refusal q = .ok p ↔ q = p ∧ refusal p = none := by
    intro q
    unfold grant
    by_cases hq : q = p
    · subst hq
      cases refusal q <;> simp
    · cases refusal q <;> simp [hq]
  unfold openFile LeadsTo
  by_cases hslash : path.getLast? = some '/'
  · simp [hslash]
  · cases hlocate : fs.locate path <;> simp [hslash, hgrant]

end FileSystem

end ClassDiagram
