import ClassDiagram.Member
import ClassDiagram.Namespace

/-!
# Containers

The boxes of a diagram: classes and enumerations with their members, in a namespace and possibly
inside another container. A container is read from its declaration and drawn as a heading with a
body in braces.
-/
namespace ClassDiagram
open Text Header

inductive Trait where
  | classifier (isAbstract : Bool) (template : Option Text) (bases : List Text)
  | enumeration
  deriving DecidableEq, Repr

/-- A box of a diagram. `parent` is the name of the container around it. -/
structure Container where
  kind : Text
  name : Text
  ns : Text
  parent : Option Text
  trait : Trait
  members : List Member
  deriving DecidableEq, Repr

namespace Header.Placement

def parentName (p : Placement) (name : Text) : Option Text :=
  if p.written = [] || p.enclosing = [] then none else some (qualify name.components.dropLast)

/-- The namespace of a container: the one written for it, or that of the outermost declaration
around it. -/
def namespaceOf (p : Placement) : Except Fault Text :=
  if p.written = [] then .ok []
  else
    match p.enclosing.getLast? with
    | none => .ok (Namespace.clean p.written)
    | some outermost => require .outerNamespace outermost

end Header.Placement

namespace Container

/-- A name without angle brackets, and with underscores for hyphens. -/
def cleanName (name : Text) : Text :=
  (name.map fun c => if c = '-' then '_' else c).filter fun c => !TypeText.isAngle c

def outline (kind name : Text) : Container :=
  { kind, name := cleanName name, ns := [], parent := none, trait := .enumeration, members := [] }

/-- Places an outline. Its members are not known, so reading stops behind that. -/
def placeOutline (c : Container) (p : Placement) : Container × Fault :=
  let c := { c with parent := p.parentName c.name }
  match p.namespaceOf with
  | .ok ns => ({ c with ns }, .outlineMembers)
  | .error e => (c, e)

def readSections {α : Type} (field : Field) (deleted : α → Bool)
    (read : Access → α → Except Fault Member) (sections : Option (Sections α)) :
    Except Fault (List Member) := do
  let sections ← require field sections
  let parts ← Access.levels.mapM fun access => do
    (((← access.part sections).filter fun d => !deleted d).mapM (read access))
  return parts.flatten

def ofClass (name : Text) (d : ClassDecl) : Except Fault Container := do
  let kind ← require .declarationMethod d.declarationMethod
  let isAbstract ← require .abstract d.abstract
  let bases ← (← require .inherits d.inherits).mapM fun base => do
    return TypeText.dropArguments (← require .base base)
  let name := cleanName name
  let ns ← d.place.namespaceOf
  let attributes ← readSections .properties PropertyDecl.deleted
    (fun access p => Member.attribute <$> Attribute.ofDecl access p) d.properties
  let operations ← readSections .methods MethodDecl.deleted
    (fun access m => Member.operation <$> Operation.ofDecl access m) d.methods
  return { kind, name, ns
           parent := d.place.parentName name
           trait := .classifier isAbstract (d.template.map singleLine) bases
           members := attributes ++ operations }

/-- The name of an enumeration; one without a name is called `empty`. -/
def enumName (d : EnumDecl) : Text := cleanName (d.name.getD "empty".toList)

def ofEnum (d : EnumDecl) : Except Fault Container := do
  let ns ← d.place.namespaceOf
  let values ← d.values.mapM (require .name)
  return { kind := "enum".toList, name := enumName d, ns
           parent := d.place.parentName (enumName d)
           trait := .enumeration
           members := values.map .literal }

def within (c : Container) (outer : Option Text) : Container :=
  match outer with
  | none => c
  | some name => if name = [] then c else { c with parent := some name }

def ofNestedEnum (outer : Text) (d : EnumDecl) : Except Fault Container := do
  let c := (← ofEnum d).within (some outer)
  return { c with name := outer ++ colons ++ c.name }

def attributeTypes (c : Container) : List Text :=
  c.members.filterMap fun
    | .attribute a => some a.type
    | _ => none

def operations (c : Container) : List Operation :=
  c.members.filterMap fun
    | .operation o => some o
    | _ => none

def isClass (c : Container) : Bool :=
  match c.trait with
  | .classifier .. => true
  | .enumeration => false

def bases (c : Container) : List Text :=
  match c.trait with
  | .classifier _ _ bases => bases
  | .enumeration => []

def headingKind (kind : Text) : Text :=
  if kind = "struct".toList || kind = "union".toList then "class".toList else kind

def heading (c : Container) : Text :=
  match c.trait with
  | .enumeration => c.kind ++ ' ' :: c.name
  | .classifier isAbstract template _ =>
    (if isAbstract then "abstract ".toList else []) ++ headingKind c.kind ++ ' ' :: c.name
      ++ (match template with
        | none => []
        | some t => " <".toList ++ t ++ ">".toList)

def render (c : Container) : Except Fault Text := do
  let lines ← c.members.mapM fun m => do return '\t' :: (← m.render) ++ ['\n']
  return c.heading ++ " \x7b\n".toList ++ lines.flatten ++ "\x7d\n".toList

/-- Containers are sorted by kind and name. -/
def key (c : Container) : Key := [c.kind, c.name]

def sortMembers (c : Container) : Container := { c with members := sortBy Member.key c.members }

def qualifiedName (c : Container) : Text := if c.ns = [] then c.name else c.ns ++ colons ++ c.name

end Container

namespace Header

def nestedAttempts (outer : Text) : Option (Sections EnumDecl) → List (Except Fault Container)
  | none => []
  | some sections => Access.levels.flatMap fun access =>
    match access.part sections with
    | .error e => [.error e]
    | .ok decls => decls.map (Container.ofNestedEnum outer)

/-- The readings of all declarations in order: classes, then enumerations, each followed by the
enumerations nested in it. -/
def attempts (h : Header) : List (Except Fault Container) :=
  (h.classes.flatMap fun (name, d) =>
    Container.ofClass name d :: nestedAttempts (Container.cleanName name) d.enums)
  ++ h.enums.flatMap fun (d, nested) =>
    Container.ofEnum d :: nestedAttempts (Container.enumName d) nested

/-- The containers of a header up to the first declaration that cannot be read. -/
def objects (h : Header) : List Container × Option Fault := collect h.attempts

end Header

end ClassDiagram
