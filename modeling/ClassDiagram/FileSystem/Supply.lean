import ClassDiagram.Diagram.Basic

/-!
# Supplies of sources

A diagram reads its sources in one of four forms: one text or several, one file or several. What is
supplied may fit the form or not. Where several files are asked for and one path is given, each of
its characters is taken for a path. What a path is that is taken for a text is left open.
-/
namespace ClassDiagram
open Text

inductive Supply where
  | header (s : Source)
  | headers (ss : List Source)
  | file (path : Text)
  | files (paths : List Text)

inductive SourceForm where
  | text
  | file
  | texts
  | files
  deriving DecidableEq, Repr

def SourceForm.ofLabel? (label : Text) : Option SourceForm :=
  if label = "string".toList then some .text
  else if label = "file".toList then some .file
  else if label = "string_list".toList then some .texts
  else if label = "file_list".toList then some .files
  else none

namespace Supply

/-- The sources that are read from a supply in a form. A file is read by `ofPath`; `ofTexts` is what
one or more texts are as a single source. -/
def sources (ofPath : Text → Source) (ofTexts : List Text → Source) :
    SourceForm → Supply → List Source
  | _, .header s => [s]
  | _, .headers ss => ss
  | .text, .file path => [ofTexts [path]]
  | .text, .files paths => [ofTexts paths]
  | .texts, .file path => path.map fun c => ofTexts [[c]]
  | .texts, .files paths => paths.map fun path => ofTexts [path]
  | .file, .file path => [ofPath path]
  | .file, .files _ => [.error .noPath]
  | .files, .file path => path.map fun c => ofPath [c]
  | .files, .files paths => paths.map ofPath

end Supply

end ClassDiagram
