import ClassDiagram.Fault
import ClassDiagram.TypeText

/-!
# Members

The members of a container: attributes and operations of a class, and the literals of an
enumeration. Each is read from its declaration, asking for the needed fields in a fixed order, and
drawn as one line: access sign, marks, name with parameters, type, properties.
-/
namespace ClassDiagram
open Text Header

inductive Access where
  | privateAccess
  | publicAccess
  | protectedAccess
  | other (label : Text)
  deriving DecidableEq, Repr

namespace Access

/-- The levels that a class declares its members for, in the order in which they are read. -/
def levels : List Access := [.privateAccess, .publicAccess, .protectedAccess]

def ofLabel (label : Text) : Access :=
  if label = "private".toList then .privateAccess
  else if label = "public".toList then .publicAccess
  else if label = "protected".toList then .protectedAccess
  else .other label

/-- The level of a member whose label may be left out: then it is private. -/
def given (label : Option Text) : Access := (label.map ofLabel).getD .privateAccess

def sign : Access → Except Fault Text
  | .privateAccess => .ok ['-']
  | .publicAccess => .ok ['+']
  | .protectedAccess => .ok ['#']
  | .other label => .error (.unknownAccess label)

def part {α : Type} (sections : Sections α) : Access → Except Fault (List α)
  | .privateAccess => require .privatePart sections.privatePart
  | .publicAccess => require .publicPart sections.publicPart
  | .protectedAccess => require .protectedPart sections.protectedPart
  | .other label => .error (.unknownAccess label)

end Access

structure Attribute where
  name : Text
  type : Text
  isStatic : Bool
  access : Access
  deriving DecidableEq, Repr

structure Parameter where
  type : Text
  name : Text
  deriving DecidableEq, Repr

structure Operation where
  name : Text
  type : Text
  isStatic : Bool
  isAbstract : Bool
  isQuery : Bool
  parameters : List Parameter
  access : Access
  deriving DecidableEq, Repr

inductive Member where
  | attribute (a : Attribute)
  | operation (o : Operation)
  | literal (name : Text)
  deriving DecidableEq, Repr

def staticMark (isStatic : Bool) : Text := if isStatic then "\x7bstatic\x7d ".toList else []

/-- The type behind a member; an empty type is not shown. -/
def typeMark (type : Text) : Text := if type = [] then [] else " : ".toList ++ type

namespace Attribute

def ofDecl (access : Access) (d : PropertyDecl) : Except Fault Attribute := do
  let name ← require .name d.name
  let isStatic ← require .static d.static
  let type ← require .type d.type
  return { name, isStatic, access
           type := TypeText.normalize type ++ (if d.array then "[]".toList else []) }

def render (a : Attribute) : Except Fault Text := do
  let sign ← a.access.sign
  return sign ++ staticMark a.isStatic ++ a.name ++ typeMark a.type

end Attribute

namespace Parameter

def ofDecl (d : ParameterDecl) : Except Fault Parameter := do
  let type ← require .type d.type
  let name ← require .name d.name
  return { type := TypeText.normalize type, name }

def render (p : Parameter) : Text := trim (p.type ++ ' ' :: p.name)

end Parameter

namespace Operation

/-- The sign behind the type of what an operation returns; a reference is asked for only if it
returns no pointer. -/
def returnSign (d : MethodDecl) : Except Fault Text := do
  if ← require .returnsPointer d.returnsPointer then return ['*']
  if ← require .returnsReference d.returnsReference then return ['&']
  return []

def ofDecl (access : Access) (d : MethodDecl) : Except Fault Operation := do
  let name ← require .name d.name
  let isStatic ← require .static d.static
  let returns ← require .returns d.returns
  let sign ← returnSign d
  let isAbstract ← require .pureVirtual d.pureVirtual
  let isDestructor ← require .destructor d.destructor
  let isQuery ← require .const d.const
  let parameters ← (← require .parameters d.parameters).mapM Parameter.ofDecl
  return { name := if isDestructor then '~' :: name else name
           type := TypeText.normalize returns ++ sign
           isStatic, isAbstract, isQuery, parameters, access }

def signature (o : Operation) : Text :=
  (if o.isAbstract then "\x7babstract\x7d ".toList else []) ++ o.name
    ++ '(' :: joinWith ", ".toList (o.parameters.map Parameter.render) ++ [')']

def render (o : Operation) : Except Fault Text := do
  let sign ← o.access.sign
  if o.isStatic && o.isAbstract then throw .staticAbstract
  return sign ++ staticMark o.isStatic ++ o.signature ++ typeMark o.type
    ++ (if o.isQuery then " \x7bquery\x7d".toList else [])

end Operation

namespace Member

def render : Member → Except Fault Text
  | .attribute a => a.render
  | .operation o => o.render
  | .literal name => .ok name

/-- Members are sorted by type and name, literals by name. -/
def key : Member → Key
  | .attribute a => [a.type, a.name]
  | .operation o => [o.type, o.name]
  | .literal name => [name]

/-- A member of which nothing but the name is known is sorted by it and has no line. -/
def renderBare (_name : Text) : Except Fault Text := .error .bareMember

end Member

end ClassDiagram
