import ClassDiagram.Exchange.Value
import ClassDiagram.FileSystem.Basic

/-!
# Exchanged headers

Headers and files as they are handed over by a reader of source files. A header is a record of its
classes by name and its enumerations, or of the reason why its file cannot be read. A bundle has
headers by id and files by path, where a file is a header's id or plain text. The text of a file with
a header is the id behind a mark that no source text has.
-/
namespace ClassDiagram.Exchange
open Text Header

def sectionsOf {α : Type} (read : Value → α) (v : Value) : Sections α where
  privatePart := (v.field? "private").map fun l => l.toList.map read
  publicPart := (v.field? "public").map fun l => l.toList.map read
  protectedPart := (v.field? "protected").map fun l => l.toList.map read

/-- The namespaces of a declaration and of those around it. A value that is no record ends the
chain. -/
def enclosingOf : Value → List (Option Text)
  | .record fields => enclosingOfFields none none fields
  | _ => []
where
  /-- Looks through the fields of one declaration for its namespace and the chain behind it. -/
  enclosingOfFields (ns : Option Text) (outer : Option (List (Option Text))) :
      List (Text × Value) → List (Option Text)
    | [] => ns :: outer.getD []
    | (name, v) :: r =>
      if name = "namespace".toList && ns.isNone then enclosingOfFields (some v.toText) outer r
      else if name = "parent".toList && outer.isNone then
        enclosingOfFields ns (some (enclosingOf v)) r
      else enclosingOfFields ns outer r

def placementOf (v : Value) : Placement where
  written := (v.text? "namespace").getD []
  enclosing :=
    match v.value? "parent" with
    | some p => if p.truth then enclosingOf p else []
    | none => []

def parameterOf (v : Value) : ParameterDecl where
  type := v.text? "type"
  name := v.text? "name"

def propertyOf (v : Value) : PropertyDecl where
  name := v.text? "name"
  static := v.truth? "static"
  type := v.text? "type"
  array := (v.truth? "array").getD false
  deleted := (v.truth? "deleted").getD false

def methodOf (v : Value) : MethodDecl where
  name := v.text? "name"
  static := v.truth? "static"
  returns := v.text? "returns"
  returnsPointer := v.truth? "returns_pointer"
  returnsReference := v.truth? "returns_reference"
  pureVirtual := v.truth? "pure_virtual"
  destructor := v.truth? "destructor"
  const := v.truth? "const"
  parameters := (v.field? "parameters").map fun l => l.toList.map parameterOf
  deleted := (v.truth? "deleted").getD false

def enumOf (v : Value) : EnumDecl where
  name := v.text? "name"
  place := placementOf v
  values := (v.items "values").map fun value => value.text? "name"

def nestedEnumsOf (v : Value) : Option (Sections EnumDecl) :=
  (v.field? "enums").map (sectionsOf enumOf)

def classOf (v : Value) : ClassDecl where
  declarationMethod := v.text? "declaration_method"
  abstract := v.truth? "abstract"
  template := v.text? "template"
  inherits := (v.field? "inherits").map fun l => l.toList.map fun base => base.text? "class"
  place := placementOf v
  properties := (v.field? "properties").map (sectionsOf propertyOf)
  methods := (v.field? "methods").map (sectionsOf methodOf)
  enums := nestedEnumsOf v

def namedClassOf (v : Value) : Text × ClassDecl :=
  match v.toList with
  | [name, decl] => (name.toText, classOf decl)
  | _ => ([], classOf .null)

def headerOf (v : Value) : Except Text Header :=
  match v.field? "parse_error" with
  | some reason => .error reason.toText
  | none => .ok {
      classes := (v.items "classes").map namedClassOf
      enums := (v.items "enums").map fun e => (enumOf e, nestedEnumsOf e) }

/-- The header of an id in a bundle; `absent` is said where there is none. -/
def headerNamed (absent : Text) (bundle : Value) (id : Text) : Except Text Header :=
  match ((bundle.field? "headers").getD .null).toFields.lookup id with
  | some v => headerOf v
  | none => .error absent

def idMark : Text := "\x00".toList

def textOf (file : Value) : Text :=
  match file.field? "text" with
  | some t => t.toText
  | none => idMark ++ (file.text? "header").getD []

def parse (absent : Text) (bundle : Value) (t : Text) : Except Text Header :=
  if idMark.isPrefixOf t then headerNamed absent bundle (t.drop idMark.length) else .error absent

def fileSystemOf (bundle : Value) : FileSystem :=
  let files := (((bundle.field? "files").getD .null).toFields).foldl
    (fun fs (path, file) => FileSystem.addFile fs path (textOf file)) ⟨[], []⟩
  (bundle.items "dirs").foldl (fun fs d => FileSystem.addFolder fs d.toText) files

end ClassDiagram.Exchange
