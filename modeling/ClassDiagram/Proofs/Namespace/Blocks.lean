import ClassDiagram.Namespace
import ClassDiagram.Proofs.Text.Lines

/-!
# Lines of namespace blocks

A block is a first line with its name, the lines of the text inside it, one tab further in, and a
last line. Blocks may stand in each other, and then a text is cut and joined again once for each of
them. `splitLines_blocks` says what comes of that: in front of the text stand the first lines of all
blocks, behind it their last lines, and each of its own lines has as many tabs as there are blocks.
Names are not restricted: one of several lines makes a block begin with several lines.
-/
namespace ClassDiagram
open Text

/-- A line with that many tabs in front. Empty lines stay empty. -/
def indentBy (depth : Nat) (line : Text) : Text :=
  if line = [] then [] else List.replicate depth '\t' ++ line

@[simp] theorem indentBy_nil (depth : Nat) : indentBy depth [] = [] := rfl

@[simp] theorem indentBy_zero (line : Text) : indentBy 0 line = line := by
  unfold indentBy
  split <;> simp_all

@[simp] theorem map_indentBy_zero (ls : List Text) : ls.map (indentBy 0) = ls := by
  rw [show indentBy 0 = id from funext indentBy_zero, List.map_id]

theorem map_indentBy_map_indentLine (depth : Nat) (ls : List Text) :
    (ls.map Namespace.indentLine).map (indentBy depth) = ls.map (indentBy (depth + 1)) := by
  rw [List.map_map]
  refine List.map_congr_left fun line _ => ?_
  unfold indentBy Namespace.indentLine
  by_cases hline : line = []
  · simp [hline]
  · simp [hline, List.replicate_succ']

theorem map_indentLine_map_indentBy (depth : Nat) (ls : List Text) :
    (ls.map (indentBy depth)).map Namespace.indentLine = ls.map (indentBy (depth + 1)) := by
  rw [List.map_map]
  refine List.map_congr_left fun line _ => ?_
  unfold indentBy Namespace.indentLine
  by_cases hline : line = []
  · simp [hline]
  · simp [hline, List.replicate_succ]

namespace Namespace

/-- How a block begins, up to the end of the line with its name. -/
def opening (name : Option Text) : Text :=
  "namespace ".toList ++ heading name ++ " \x7b".toList

/-- The last line of a block. -/
def closing : Text := "\x7d".toList

/-- The lines in front of a text inside some blocks, of which the outermost comes first. -/
def openings : List (Option Text) → List Text
  | [] => []
  | name :: inner => splitLines (opening name ++ ['\n']) ++ (openings inner).map indentLine

/-- The lines behind a text inside that many blocks. -/
def closings : Nat → List Text
  | 0 => []
  | depth + 1 => (closings depth).map indentLine ++ [closing]

/-- A block is its beginning, its body line by line, and its last line. -/
theorem wrap_eq (name : Option Text) (body : Text) :
    wrap name body =
      opening name ++ '\n' :: (joinWith ['\n'] (body.splitLines.map indentLine) ++
        '\n' :: (closing ++ ['\n'])) := by
  have hsplit : ∀ {lead name brace brace' lines last last' : Text},
      brace' = brace ++ ['\n'] → last' = '\n' :: last →
      lead ++ name ++ brace' ++ lines ++ last' =
        lead ++ name ++ brace ++ '\n' :: (lines ++ '\n' :: last) := by
    rintro lead name brace _ lines last _ rfl rfl
    simp
  exact hsplit (by decide +kernel) (by decide +kernel)

theorem endsInFeed_wrap (name : Option Text) (body : Text) : EndsInFeed (wrap name body) := by
  refine ⟨opening name ++ '\n' :: (joinWith ['\n'] (body.splitLines.map indentLine) ++
    '\n' :: closing), ?_⟩
  rw [wrap_eq]
  simp only [List.append_assoc, List.cons_append]

theorem isOneLine_indentLine {line : Text} (h : IsOneLine line) : IsOneLine (indentLine line) := by
  unfold indentLine
  split
  · simp [IsOneLine]
  · intro c hc
    rcases List.mem_cons.1 hc with rfl | hc
    · decide
    · exact h c hc

/-- A text inside a block is cut into the same lines as alone, with a tab in front of each that is
not empty. -/
theorem splitLines_wrap (name : Option Text) {body : Text} (hbody : body ≠ []) :
    splitLines (wrap name body) =
      splitLines (opening name ++ ['\n']) ++ body.splitLines.map indentLine ++ [closing] := by
  have hlines : ∀ l ∈ body.splitLines.map indentLine, IsOneLine l := by
    intro l hl
    obtain ⟨l', hl', rfl⟩ := List.mem_map.1 hl
    exact isOneLine_indentLine (isOneLine_of_mem_splitLines hl')
  have hne : body.splitLines.map indentLine ≠ [] := by simpa using splitLines_ne_nil hbody
  have hlast : splitLines (closing ++ ['\n']) = [closing] := by decide +kernel
  rw [wrap_eq, splitLines_append_feed, splitLines_joinWith hne hlines, hlast, List.append_assoc]

theorem blocks_ne_nil (names : List (Option Text)) {body : Text} (hbody : body ≠ []) :
    names.foldr wrap body ≠ [] := by
  cases names with
  | nil => exact hbody
  | cons name inner =>
    obtain ⟨s, hs⟩ := endsInFeed_wrap name (inner.foldr wrap body)
    rw [List.foldr_cons, hs]
    simp

/-- A text inside some blocks is cut into the same lines as alone, with a tab for each block in
front of those that are not empty. -/
theorem splitLines_blocks (names : List (Option Text)) {body : Text} (hbody : body ≠ []) :
    splitLines (names.foldr wrap body) =
      openings names ++ body.splitLines.map (indentBy names.length) ++ closings names.length := by
  induction names with
  | nil => simp [openings, closings]
  | cons name inner ih =>
    rw [List.foldr_cons, splitLines_wrap name (blocks_ne_nil inner hbody), ih]
    simp only [openings, closings, List.length_cons, List.map_append, map_indentLine_map_indentBy,
      List.append_assoc]

end Namespace

end ClassDiagram
