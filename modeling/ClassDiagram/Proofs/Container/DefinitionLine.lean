import ClassDiagram.Proofs.Namespace.Blocks
import ClassDiagram.Proofs.Namespace.Cleaning
import ClassDiagram.Proofs.Text.SingleLine

/-!
# The definition line of a class

A drawn class begins with a line that has its kind, its name and its template. The template is the
part that a declaration may well spread over several lines. It is read as a single line, so the
definition is one line, and it stays one inside any number of namespace blocks: a block cuts the
text inside it at every kind of line end, and none of them is in the definition.
-/
namespace ClassDiagram.Container
open Text Header

/-- The line with which a container begins as drawn. -/
def definitionLine (c : Container) : Text := c.heading ++ " \x7b".toList

theorem isPrefix_render {c : Container} {drawn : Text} (h : c.render = .ok drawn) :
    c.definitionLine ++ ['\n'] <+: drawn := by
  have hbrace : " \x7b\n".toList = " \x7b".toList ++ ['\n'] := by decide +kernel
  unfold render at h
  obtain ⟨lines, -, h⟩ := bind_eq_ok_iff.1 h
  rw [← Except.ok.inj h, hbrace, List.append_assoc _ lines.flatten, ← List.append_assoc c.heading]
  exact List.prefix_append _ _

theorem isOneLine_headingKind {kind : Text} (h : IsOneLine kind) :
    IsOneLine (headingKind kind) := by
  unfold headingKind
  split
  · decide +kernel
  · exact h

section
variable {c : Container} {isAbstract : Bool} {template : Text} {bases : List Text}

theorem heading_eq (h : c.trait = .classifier isAbstract (some template) bases) :
    c.heading = (if isAbstract then "abstract ".toList else []) ++ headingKind c.kind ++
      ' ' :: c.name ++ (" <".toList ++ template ++ ">".toList) := by
  unfold heading
  rw [h]

theorem isOneLine_definitionLine (h : c.trait = .classifier isAbstract (some template) bases)
    (hkind : IsOneLine c.kind) (hname : IsOneLine c.name) (htemplate : IsOneLine template) :
    IsOneLine c.definitionLine := by
  have habstract : IsOneLine (if isAbstract then "abstract ".toList else []) := by
    cases isAbstract <;> decide +kernel
  have hblank : IsOneLine [' '] := by decide
  have hopen : IsOneLine " <".toList := by decide +kernel
  have hclose : IsOneLine ">".toList := by decide +kernel
  have hbrace : IsOneLine " \x7b".toList := by decide +kernel
  have hstart := (habstract.append (isOneLine_headingKind hkind)).append (hblank.append hname)
  have hheading : IsOneLine c.heading := by
    rw [heading_eq h]
    exact hstart.append ((hopen.append htemplate).append hclose)
  exact hheading.append hbrace

end

/-- A template text is read as a single line: its blanks become single spaces, and it keeps all
other characters and its words. With it the definition of a class is one line if the kind and the
name of the class are. Inside any blocks, and with any text in front of it and behind it, it is
there as one line, with a tab for each block. -/
theorem definition_on_one_line (template : Text) :
    IsOneLine (singleLine template) ∧
      (∀ x ∈ singleLine template, isBlank x = true → x = ' ') ∧
      NoneBefore isBlank isBlank (singleLine template) ∧
      withoutBlanks (singleLine template) = withoutBlanks template ∧
      words (singleLine template) = words template ∧
      singleLine (singleLine template) = singleLine template ∧
      ∀ (name : Text) (d : ClassDecl) (c : Container), d.template = some template →
        ofClass name d = .ok c → IsOneLine c.kind → IsOneLine c.name →
          " <".toList ++ singleLine template ++ ">".toList <:+ c.heading ∧
          (∀ drawn, c.render = .ok drawn → c.definitionLine ++ ['\n'] <+: drawn) ∧
          ∀ (blocks : List (Option Text)) (front back : Text), front = [] ∨ EndsInFeed front →
            splitLines (blocks.foldr Namespace.wrap (front ++ (c.definitionLine ++ '\n' :: back))) =
              Namespace.openings blocks ++
                (splitLines front ++ c.definitionLine :: splitLines back).map
                  (indentBy blocks.length) ++
                Namespace.closings blocks.length := by
  have hspaced := isSpaced_singleLine template
  refine ⟨hspaced.isOneLine, hspaced.spaces, hspaced.single, withoutBlanks_singleLine template,
    words_singleLine template, hspaced.singleLine_eq_self, ?_⟩
  intro name d c htemplate hread hkind hname
  obtain ⟨-, isAbstract, bases, htrait⟩ := spec_of_ofClass hread
  rw [htemplate, Option.map_some] at htrait
  have hline : IsOneLine c.definitionLine :=
    isOneLine_definitionLine htrait hkind hname hspaced.isOneLine
  refine ⟨?_, fun drawn => isPrefix_render, fun blocks front back hfront => ?_⟩
  · rw [heading_eq htrait]
    exact List.suffix_append _ _
  · rw [Namespace.splitLines_blocks blocks (by simp), splitLines_around hfront hline]

/-- A class template whose parameters stand on two lines. -/
def pairDecl : ClassDecl :=
  { emptyClass (.outermost []) with template := some "class K,\r\n \t class V".toList }

/-- The class that is read from it. -/
def pair : Container :=
  { outline "class".toList "Pair".toList with
    trait := .classifier false (some "class K, class V".toList) [] }

theorem definition_on_one_line_pair :
    ofClass "Pair".toList pairDecl = .ok pair ∧ IsOneLine pair.kind ∧ IsOneLine pair.name ∧
      splitLines ([some "a".toList, some "b".toList].foldr Namespace.wrap
        (pair.definitionLine ++ '\n' :: "\x7d\n".toList)) =
      ["namespace a \x7b", "\tnamespace b \x7b", "\t\tclass Pair <class K, class V> \x7b",
        "\t\t\x7d", "\t\x7d", "\x7d"].map String.toList := by
  have hread : ofClass "Pair".toList pairDecl = .ok pair := by decide +kernel
  have hkind : IsOneLine pair.kind := by decide +kernel
  have hname : IsOneLine pair.name := by decide +kernel
  obtain ⟨-, -, -, -, -, -, hclass⟩ := definition_on_one_line "class K,\r\n \t class V".toList
  obtain ⟨-, -, hlines⟩ := hclass _ _ _ rfl hread hkind hname
  exact ⟨hread, hkind, hname, (hlines _ [] _ (.inl rfl)).trans (by decide +kernel)⟩

end ClassDiagram.Container
