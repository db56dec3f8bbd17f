import ClassDiagram.Exchange.Value
import ClassDiagram.Fault

/-!
# Package metadata

Items of a package are lines of the form `__name__ = 'value'` in a text. The metadata that the
package is published with are fixed fields, some of which are such items.
-/
namespace ClassDiagram.Package
open Text Exchange

/-- The pattern of a line with an item. Its value stands between two quotes and is the first piece
that is remembered, unless the name, which is itself read as a pattern, remembers one. -/
def itemPattern (name : Text) : Except Pattern.Fault Pattern :=
  Pattern.ofText { multiline := true }
    ("^__".toList ++ name ++ "__ = ['\\\"]([^'\\\"]*)['\\\"]".toList)

/-- The value of the first item of a name in a package text. There is none if what was found
remembers nothing. -/
def item (t name : Text) : Except Fault (Option Text) :=
  match itemPattern name with
  | .error e => .error (.pattern e)
  | .ok p =>
    match p.search t with
    | .error e => .error (.pattern e)
    | .ok (some found) => .ok (found.piece? 1)
    | .ok none => .error (.noPackageItem name)

def texts (ss : List String) : Value := .list (ss.map fun s => .text s.toList)

def itemValue (about : Text) (name : String) : Value :=
  .text ((item about name.toList).toOption.join.getD [])

def metadata (about description : Text) : List (Text × Value) := [
  ("name".toList, .text "hpp2plantuml".toList),
  ("description".toList, itemValue about "description"),
  ("license".toList, itemValue about "license"),
  ("url".toList, itemValue about "uri"),
  ("version".toList, itemValue about "version"),
  ("author".toList, itemValue about "author"),
  ("author_email".toList, itemValue about "email"),
  ("maintainer".toList, itemValue about "author"),
  ("maintainer_email".toList, itemValue about "email"),
  ("keywords".toList, texts ["class"]),
  ("long_description".toList, .text description),
  ("packages".toList, texts ["hpp2plantuml"]),
  ("package_dir".toList, .record [([], .text "src".toList)]),
  ("package_data".toList, .record [("hpp2plantuml".toList, texts ["templates/*.puml"])]),
  ("include_package_data".toList, .flag true),
  ("zip_safe".toList, .flag false),
  ("classifiers".toList, texts [
    "Development Status :: 4 - Beta",
    "Intended Audience :: Developers",
    "Natural Language :: English",
    "License :: OSI Approved :: MIT License",
    "Operating System :: OS Independent",
    "Programming Language :: Python",
    "Programming Language :: Python :: 3",
    "Programming Language :: Python :: Implementation :: PyPy",
    "Topic :: Software Development :: Libraries :: Python Modules"]),
  ("install_requires".toList, texts ["argparse", "robotpy-cppheaderparser", "jinja2", "sphinx"]),
  ("setup_requires".toList, texts ["sphinx", "numpydoc"]),
  ("test_suite".toList, .text "pytest".toList),
  ("tests_require".toList, texts ["pytest"]),
  ("entry_points".toList, .record [
    ("console_scripts".toList, texts ["hpp2plantuml=hpp2plantuml.hpp2plantuml:main"])]),
  ("cmdclass".toList, .record [
    ("sphinx".toList, .record [
      ("description".toList, .text "Build sphinx documentation".toList),
      ("user_options".toList, texts [])])])]

def select (about description : Text) (fields : Option (List Text)) :
    Except Fault (List (Text × Value)) :=
  match fields with
  | none => .ok (metadata about description)
  | some names => names.mapM fun name =>
    match (metadata about description).lookup name with
    | some v => .ok (name, v)
    | none => .error (.noPackageField name)

end ClassDiagram.Package
