import ClassDiagram.Template.Drawing

/-!
# The standard template

A preamble, the containers, and a section for each list of links; that of the dependencies only
under its flag.
-/
namespace ClassDiagram.Template
open Text

def standardName : Text := "default.puml".toList

def dependencyFlag : Text := "flag_dep".toList

def drawn (var : Text) : Piece := .place (.call (.field (.name var) "render".toList))

/-- Every element of a listing, with line feeds around it. -/
def elements (var listing : Text) : Piece :=
  .each var (.name listing) [.text ['\n'], drawn var, .text ['\n']] []

def title (t : Text) : Text := "/' ".toList ++ t ++ " '/\n".toList

def listingBlock (name lead heading var listing : Text) : Piece :=
  .block name false [.text (lead ++ title heading), elements var listing, .text ['\n']]

def standard : Template where
  pieces := [
    .text "@startuml\n\n".toList,
    .block "preamble".toList false [.text ['\n']],
    .text "\n\n".toList,
    listingBlock "objects".toList "\n".toList "Objects".toList "object".toList "objects".toList,
    .text "\n\n".toList,
    listingBlock "inheritance".toList "\n".toList "Inheritance relationships".toList "link".toList
      "inheritance_list".toList,
    .text "\n\n".toList,
    listingBlock "aggregation".toList "\n".toList "Aggregation relationships".toList "link".toList
      "aggregation_list".toList,
    .text "\n".toList,
    .onlyIf (.name dependencyFlag) [
      .text "\n".toList,
      listingBlock "dependency".toList "\n\n".toList "Dependency relationships".toList "link".toList
        "dependency_list".toList,
      .text "\n".toList] [],
    .text "\n\n".toList,
    listingBlock "nested".toList "\n".toList "Nested objects".toList "link".toList
      "nesting_list".toList,
    .text "\n\n@enduml\n".toList]

end ClassDiagram.Template
