import ClassDiagram.Text.Basic

/-!
# Headers

A header is a list of declarations as a reader of source files hands them over. A field that the
reader left out is `none`; which of them are needed, and in which order they are asked for, is
decided where the declarations are turned into containers.
-/
namespace ClassDiagram

namespace Header

/-- The fields whose absence is an error. -/
inductive Field where
  | declarationMethod
  | abstract
  | inherits
  | base
  | properties
  | methods
  | privatePart
  | publicPart
  | protectedPart
  | name
  | static
  | type
  | returns
  | returnsPointer
  | returnsReference
  | pureVirtual
  | destructor
  | const
  | parameters
  | outerNamespace
  deriving DecidableEq, Repr

def Field.label : Field → Text
  | .declarationMethod => "declaration_method".toList
  | .abstract => "abstract".toList
  | .inherits => "inherits".toList
  | .base => "class".toList
  | .properties => "properties".toList
  | .methods => "methods".toList
  | .privatePart => "private".toList
  | .publicPart => "public".toList
  | .protectedPart => "protected".toList
  | .name => "name".toList
  | .static => "static".toList
  | .type => "type".toList
  | .returns => "returns".toList
  | .returnsPointer => "returns_pointer".toList
  | .returnsReference => "returns_reference".toList
  | .pureVirtual => "pure_virtual".toList
  | .destructor => "destructor".toList
  | .const => "const".toList
  | .parameters => "parameters".toList
  | .outerNamespace => "namespace".toList

structure Sections (α : Type) where
  privatePart : Option (List α)
  publicPart : Option (List α)
  protectedPart : Option (List α)
  deriving DecidableEq, Repr

/-- Where a declaration stands: the namespace written for it, empty if there is none, and the
namespaces of the declarations around it, innermost first. -/
structure Placement where
  written : Text
  enclosing : List (Option Text)
  deriving DecidableEq, Repr

structure ParameterDecl where
  type : Option Text
  name : Option Text
  deriving DecidableEq, Repr

structure PropertyDecl where
  name : Option Text
  static : Option Bool
  type : Option Text
  array : Bool
  deleted : Bool
  deriving DecidableEq, Repr

structure MethodDecl where
  name : Option Text
  static : Option Bool
  returns : Option Text
  returnsPointer : Option Bool
  returnsReference : Option Bool
  pureVirtual : Option Bool
  destructor : Option Bool
  const : Option Bool
  parameters : Option (List ParameterDecl)
  deleted : Bool
  deriving DecidableEq, Repr

structure EnumDecl where
  name : Option Text
  place : Placement
  values : List (Option Text)
  deriving DecidableEq, Repr

structure ClassDecl where
  declarationMethod : Option Text
  abstract : Option Bool
  template : Option Text
  inherits : Option (List (Option Text))
  place : Placement
  properties : Option (Sections PropertyDecl)
  methods : Option (Sections MethodDecl)
  enums : Option (Sections EnumDecl)
  deriving DecidableEq, Repr

end Header

/-- The declarations of one source file: its classes by name, and its enumerations with the ones
nested in them. -/
structure Header where
  classes : List (Text × Header.ClassDecl)
  enums : List (Header.EnumDecl × Option (Header.Sections Header.EnumDecl))
  deriving DecidableEq, Repr

end ClassDiagram
