import ClassDiagram.Container
import ClassDiagram.Proofs.Attempt

/-!
# Fields that are missing

A declaration is read by asking for its fields in a fixed order, at any depth: lists of members,
members, their parameters. `missing` lists the fields that are not there in that order, and does so
for each kind of declaration without reading it. A reading gives a container exactly if that list is
empty, and otherwise stops at its first field (`Declaration.asksFor_read`).
-/
namespace ClassDiagram.Header

/-- An attempt that asks for fields, of which the given ones are missing: with none missing it
succeeds, and otherwise it stops at the first. -/
def AsksFor {α : Type} (x : Except Fault α) : List Field → Prop
  | [] => ∃ a, x = .ok a
  | field :: _ => x = .error (.missingField field)

/-- A field as a list of missing ones: the field alone, unless it has a value. -/
def absent {α : Type} (field : Field) : Option α → List Field
  | none => [field]
  | some _ => []

namespace AsksFor
variable {α β : Type}

theorem ok (a : α) : AsksFor (.ok a) [] := ⟨a, rfl⟩

theorem eq_error_iff {x : Except Fault α} {fields : List Field} (h : AsksFor x fields) {f : Fault} :
    x = .error f ↔ ∃ field others, fields = field :: others ∧ f = .missingField field := by
  cases fields with
  | nil =>
    obtain ⟨a, rfl⟩ := h
    simp
  | cons field others =>
    have hx : x = .error (.missingField field) := h
    simp [hx, eq_comm]

theorem require (field : Field) (value : Option α) :
    AsksFor (Header.require field value) (absent field value) := by
  cases value with
  | none => exact rfl
  | some a => exact ok a

theorem bind {x : Except Fault α} {next : α → Except Fault β} {first rest : List Field}
    (h : AsksFor x first) (hnext : ∀ a, x = .ok a → AsksFor (next a) rest) :
    AsksFor (x >>= next) (first ++ rest) := by
  cases first with
  | nil =>
    obtain ⟨a, rfl⟩ := h
    exact hnext a rfl
  | cons field first =>
    have hx : x = .error (.missingField field) := h
    rw [hx]
    exact rfl

theorem map {x : Except Fault α} {fields : List Field} (f : α → β) (h : AsksFor x fields) :
    AsksFor (f <$> x) fields := by
  have hmap := h.bind fun a _ => ok (f a)
  rwa [List.append_nil] at hmap

theorem mapM_cons {f : α → Except Fault β} {x : α} {xs : List α} {first rest : List Field}
    (hfirst : AsksFor (f x) first) (hrest : AsksFor (xs.mapM f) rest) :
    AsksFor ((x :: xs).mapM f) (first ++ rest) := by
  rw [List.mapM_cons]
  refine hfirst.bind fun y _ => ?_
  exact hrest.map fun ys => y :: ys

theorem mapM {f : α → Except Fault β} {fields : α → List Field} {xs : List α}
    (h : ∀ x ∈ xs, AsksFor (f x) (fields x)) : AsksFor (xs.mapM f) (xs.flatMap fields) := by
  induction xs with
  | nil => exact ok []
  | cons x xs ih =>
    have hrest : AsksFor (xs.mapM f) (xs.flatMap fields) := ih fun y hy => h y (by simp [hy])
    exact mapM_cons (h x (by simp)) hrest

/-- What is asked for behind a list that may be missing itself. -/
theorem require_bind {next : List α → Except Fault β} (fields : List α → List Field) {field : Field}
    {value : Option (List α)} (h : ∀ xs, AsksFor (next xs) (fields xs)) :
    AsksFor (Header.require field value >>= next) (absent field value ++ fields (value.getD [])) := by
  cases value with
  | none => exact rfl
  | some xs => exact h xs

end AsksFor

def ParameterDecl.missing (d : ParameterDecl) : List Field :=
  absent .type d.type ++ absent .name d.name

def PropertyDecl.missing (d : PropertyDecl) : List Field :=
  absent .name d.name ++ (absent .static d.static ++ absent .type d.type)

/-- The missing fields of a member function; whether it returns a reference does not matter if it
returns a pointer. -/
def MethodDecl.missing (d : MethodDecl) : List Field :=
  absent .name d.name ++ (absent .static d.static ++ (absent .returns d.returns
    ++ ((absent .returnsPointer d.returnsPointer
      ++ if d.returnsPointer = some true then [] else absent .returnsReference d.returnsReference)
    ++ (absent .pureVirtual d.pureVirtual ++ (absent .destructor d.destructor
    ++ (absent .const d.const ++ (absent .parameters d.parameters
    ++ (d.parameters.getD []).flatMap ParameterDecl.missing)))))))

/-- The lists for the three access levels, in the order in which they are asked for. -/
def Sections.parts {α : Type} (sections : Sections α) : List (Field × Option (List α)) :=
  [(.privatePart, sections.privatePart), (.publicPart, sections.publicPart),
    (.protectedPart, sections.protectedPart)]

/-- The missing fields of the members of a class: the lists themselves, and the fields of every
member that is not deleted. -/
def missingInSections {α : Type} (field : Field) (deleted : α → Bool) (missing : α → List Field) :
    Option (Sections α) → List Field
  | none => [field]
  | some sections => sections.parts.flatMap fun part =>
    absent part.1 part.2 ++ ((part.2.getD []).filter fun d => !deleted d).flatMap missing

theorem asksFor_parameter (d : ParameterDecl) : AsksFor (Parameter.ofDecl d) d.missing := by
  unfold Parameter.ofDecl ParameterDecl.missing
  refine (AsksFor.require .type d.type).bind fun type _ => ?_
  exact (AsksFor.require .name d.name).map _

theorem asksFor_attribute (access : Access) (d : PropertyDecl) :
    AsksFor (Attribute.ofDecl access d) d.missing := by
  unfold Attribute.ofDecl PropertyDecl.missing
  refine (AsksFor.require .name d.name).bind fun name _ => ?_
  refine (AsksFor.require .static d.static).bind fun isStatic _ => ?_
  exact (AsksFor.require .type d.type).map _

theorem asksFor_returnSign (d : MethodDecl) :
    AsksFor (Operation.returnSign d) (absent .returnsPointer d.returnsPointer
      ++ if d.returnsPointer = some true then []
        else absent .returnsReference d.returnsReference) := by
  unfold Operation.returnSign
  generalize d.returnsPointer = pointer, d.returnsReference = reference
  cases pointer with
  | none => exact rfl
  | some isPointer =>
    cases isPointer with
    | true => exact .ok ['*']
    | false =>
      cases reference with
      | none => exact rfl
      | some isReference =>
        cases isReference with
        | true => exact .ok ['&']
        | false => exact .ok []

theorem asksFor_operation (access : Access) (d : MethodDecl) :
    AsksFor (Operation.ofDecl access d) d.missing := by
  unfold Operation.ofDecl MethodDecl.missing
  refine (AsksFor.require .name d.name).bind fun name _ => ?_
  refine (AsksFor.require .static d.static).bind fun isStatic _ => ?_
  refine (AsksFor.require .returns d.returns).bind fun returns _ => ?_
  refine (asksFor_returnSign d).bind fun sign _ => ?_
  refine (AsksFor.require .pureVirtual d.pureVirtual).bind fun isAbstract _ => ?_
  refine (AsksFor.require .destructor d.destructor).bind fun isDestructor _ => ?_
  refine (AsksFor.require .const d.const).bind fun isQuery _ => ?_
  refine AsksFor.require_bind (List.flatMap ParameterDecl.missing) fun parameters => ?_
  exact (AsksFor.mapM fun p _ => asksFor_parameter p).map _

/-- Reading the members of a class asks for the three lists, and in each of them for the fields of
the members that are not deleted. -/
theorem asksFor_readSections {α : Type} {field : Field} {deleted : α → Bool}
    {read : Access → α → Except Fault Member} {missing : α → List Field}
    (hread : ∀ access d, AsksFor (read access d) (missing d)) (sections : Option (Sections α)) :
    AsksFor (Container.readSections field deleted read sections)
      (missingInSections field deleted missing sections) := by
  cases sections with
  | none => exact rfl
  | some sections =>
    have hpart : ∀ (access : Access) (partField : Field) (part : Option (List α)),
        access.part sections = Header.require partField part →
        AsksFor (do
          (((← access.part sections).filter fun d => !deleted d).mapM (read access)))
          (absent partField part ++ ((part.getD []).filter fun d => !deleted d).flatMap missing) := by
      intro access partField part hrequire
      rw [hrequire]
      cases part with
      | none => exact rfl
      | some decls => exact AsksFor.mapM fun d _ => hread access d
    have hprivate := hpart .privateAccess .privatePart sections.privatePart rfl
    have hpublic := hpart .publicAccess .publicPart sections.publicPart rfl
    have hprotected := hpart .protectedAccess .protectedPart sections.protectedPart rfl
    change AsksFor (List.flatten <$> Access.levels.mapM _) _
    refine AsksFor.map List.flatten ?_
    refine AsksFor.mapM_cons hprivate ?_
    refine AsksFor.mapM_cons hpublic ?_
    exact AsksFor.mapM_cons hprotected (.ok [])

/-- The missing field of a place: the namespace of the outermost declaration around it, if that is
where the namespace is taken from. -/
def Placement.missing (p : Placement) : List Field :=
  if p.written = [] then []
  else
    match p.enclosing.getLast? with
    | none => []
    | some outermost => absent .outerNamespace outermost

def EnumDecl.missing (d : EnumDecl) : List Field :=
  d.place.missing ++ d.values.flatMap (absent .name)

def ClassDecl.missing (d : ClassDecl) : List Field :=
  absent .declarationMethod d.declarationMethod ++ (absent .abstract d.abstract
    ++ (absent .inherits d.inherits ++ ((d.inherits.getD []).flatMap (absent .base)
    ++ (d.place.missing
    ++ (missingInSections .properties PropertyDecl.deleted PropertyDecl.missing d.properties
    ++ missingInSections .methods MethodDecl.deleted MethodDecl.missing d.methods)))))

theorem asksFor_namespaceOf (p : Placement) : AsksFor p.namespaceOf p.missing := by
  unfold Placement.namespaceOf Placement.missing
  split
  · exact .ok []
  · cases p.enclosing.getLast? with
    | none => exact .ok _
    | some outermost => exact .require .outerNamespace outermost

theorem asksFor_ofEnum (d : EnumDecl) : AsksFor (Container.ofEnum d) d.missing := by
  unfold Container.ofEnum EnumDecl.missing
  refine (asksFor_namespaceOf d.place).bind fun ns _ => ?_
  exact (AsksFor.mapM fun value _ => AsksFor.require .name value).map _

theorem asksFor_ofNestedEnum (outer : Text) (d : EnumDecl) :
    AsksFor (Container.ofNestedEnum outer d) d.missing := (asksFor_ofEnum d).map _

theorem asksFor_ofClass (name : Text) (d : ClassDecl) :
    AsksFor (Container.ofClass name d) d.missing := by
  unfold Container.ofClass ClassDecl.missing
  refine (AsksFor.require .declarationMethod d.declarationMethod).bind fun kind _ => ?_
  refine (AsksFor.require .abstract d.abstract).bind fun isAbstract _ => ?_
  refine AsksFor.require_bind (fun bases => bases.flatMap (absent .base) ++ _) fun bases => ?_
  refine (AsksFor.mapM fun base _ => (AsksFor.require .base base).map _).bind fun bases _ => ?_
  refine (asksFor_namespaceOf d.place).bind fun ns _ => ?_
  refine (asksFor_readSections (fun access p => (asksFor_attribute access p).map _)
    d.properties).bind fun attributes _ => ?_
  exact (asksFor_readSections (fun access m => (asksFor_operation access m).map _) d.methods).map _

/-- What is read from a header, one after the other. -/
inductive Declaration where
  | classifier (name : Text) (d : ClassDecl)
  | enumeration (d : EnumDecl)
  | nested (outer : Text) (d : EnumDecl)
  /-- A list of nested enumerations that is not there. -/
  | noList (field : Field)

namespace Declaration

/-- The missing fields of a declaration in the order in which they are asked for. -/
def missing : Declaration → List Field
  | .classifier _ d => d.missing
  | .enumeration d => d.missing
  | .nested _ d => d.missing
  | .noList field => [field]

def read : Declaration → Except Fault Container
  | .classifier name d => Container.ofClass name d
  | .enumeration d => Container.ofEnum d
  | .nested outer d => Container.ofNestedEnum outer d
  | .noList field => .error (.missingField field)

/-- A declaration without missing fields gives a container, any other one stops at its first missing
field. -/
theorem asksFor_read (i : Declaration) : AsksFor i.read i.missing := by
  cases i with
  | classifier name d => exact asksFor_ofClass name d
  | enumeration d => exact asksFor_ofEnum d
  | nested outer d => exact asksFor_ofNestedEnum outer d
  | noList field => exact rfl

end Declaration

/-- The enumerations nested in the container of a name: private, public and protected ones. -/
def nestedDeclarations (outer : Text) : Option (Sections EnumDecl) → List Declaration
  | none => []
  | some sections => sections.parts.flatMap fun part =>
    match part.2 with
    | none => [.noList part.1]
    | some decls => decls.map (.nested outer)

/-- The declarations of a header: classes, then enumerations, each directly followed by the
enumerations nested in it. -/
def declarations (h : Header) : List Declaration :=
  (h.classes.flatMap fun (name, d) =>
    .classifier name d :: nestedDeclarations (Container.cleanName name) d.enums)
  ++ h.enums.flatMap fun (d, nested) =>
    .enumeration d :: nestedDeclarations (Container.enumName d) nested

theorem nestedAttempts_eq (outer : Text) (sections : Option (Sections EnumDecl)) :
    nestedAttempts outer sections = (nestedDeclarations outer sections).map Declaration.read := by
  cases sections with
  | none => rfl
  | some sections =>
    obtain ⟨privatePart, publicPart, protectedPart⟩ := sections
    cases privatePart <;> cases publicPart <;> cases protectedPart <;>
      simp [nestedAttempts, nestedDeclarations, Access.levels, Access.part, Sections.parts,
        Header.require, Declaration.read, Function.comp_def]

theorem attempts_eq (h : Header) : h.attempts = h.declarations.map Declaration.read := by
  simp only [attempts, declarations, nestedAttempts_eq, List.map_append, List.map_flatMap,
    List.map_cons]
  rfl

end ClassDiagram.Header
