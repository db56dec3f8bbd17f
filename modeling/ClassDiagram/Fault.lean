import ClassDiagram.Header
import ClassDiagram.Pattern.Reading
import ClassDiagram.Template.Fault

/-!
# Faults

Everything that can go wrong, by its cause. The wording is in `Fault.message` alone.
-/
namespace ClassDiagram
open Text

inductive Fault where
  | missingField (field : Header.Field)
  | unknownAccess (label : Text)
  | unknownLink (label : Text)
  | staticAbstract
  | outlineMembers
  /-- A member of which only the name is known cannot be drawn. -/
  | bareMember
  | unparsable (reason : Text)
  | pattern (fault : Pattern.Fault)
  /-- Of several candidates one does not occur in the text that is resolved. -/
  | noOccurrence
  /-- A counted name is not listed, and no counted pair came before it. -/
  | unsetPair
  | unlisted (name : Text)
  | noTemplate (name : Text)
  | template (fault : Template.Fault)
  /-- A template beyond the described language cannot be read or filled in. -/
  | otherTemplate (reason : Text)
  | noSuchFile (path : Text)
  | isDirectory (path : Text)
  | notDirectory (path : Text)
  | overlongName (path : Text)
  /-- A place may not be written to, for a reason of its own. -/
  | refused (reason : Text)
  /-- An option was given no path. -/
  | noPath
  | unusablePath
  | noObjects
  | noPackageItem (name : Text)
  | noPackageField (name : Text)
  deriving DecidableEq, Repr

def Fault.message : Fault → Text
  | .missingField field => field.label.quoted
  | .unknownAccess label => label.quoted
  | .unknownLink label => label.quoted
  | .staticAbstract => []
  | .outlineMembers => "Derived class must implement :func:`_do_parse_members`.".toList
  | .bareMember => "Derived class must implement `render`.".toList
  | .unparsable reason => reason
  | .pattern fault => fault.message
  | .noOccurrence => "'NoneType' object has no attribute 'span'".toList
  | .unsetPair =>
    "cannot access local variable 'obj_class_idx' where it is not associated with a value".toList
  | .unlisted name => name.quoted ++ " is not in list".toList
  | .noTemplate name => name
  | .template fault => fault.message
  | .otherTemplate reason => reason
  | .noSuchFile path => "[Errno 2] No such file or directory: ".toList ++ path.quoted
  | .isDirectory path => "[Errno 21] Is a directory: ".toList ++ path.quoted
  | .notDirectory path => "[Errno 20] Not a directory: ".toList ++ path.quoted
  | .overlongName path => "[Errno 36] File name too long: ".toList ++ path.quoted
  | .refused reason => reason
  | .unusablePath => "embedded null byte".toList
  | .noPath => "expected str, bytes or os.PathLike object, not list".toList
  | .noObjects => "list index out of range".toList
  | .noPackageItem name => "Unable to find __".toList ++ name ++ "__ string.".toList
  | .noPackageField name => name.quoted

namespace Header

def require {α : Type} (field : Field) : Option α → Except Fault α
  | none => .error (.missingField field)
  | some a => .ok a

end Header

/-- The results before the first failure, and that failure. -/
def collect {α : Type} : List (Except Fault α) → List α × Option Fault
  | [] => ([], none)
  | .error e :: _ => ([], some e)
  | .ok a :: r =>
    let rest := collect r
    (a :: rest.1, rest.2)

theorem collect_map_ok {α : Type} (as : List α) : collect (as.map .ok) = (as, none) := by
  induction as with
  | nil => rfl
  | cons a as ih => simp [collect, ih]

theorem collect_append {α : Type} (xs ys : List (Except Fault α)) (h : (collect xs).2 = none) :
    collect (xs ++ ys) = ((collect xs).1 ++ (collect ys).1, (collect ys).2) := by
  induction xs with
  | nil => rfl
  | cons x xs ih =>
    cases x with
    | error e => simp [collect] at h
    | ok a => simp [collect, ih (by simpa [collect] using h)]

theorem collect_append_of_some {α : Type} (xs ys : List (Except Fault α)) {f : Fault}
    (h : (collect xs).2 = some f) : collect (xs ++ ys) = collect xs := by
  induction xs with
  | nil => simp [collect] at h
  | cons x xs ih =>
    cases x with
    | error e => rfl
    | ok a => simp [collect, ih (by simpa [collect] using h)]

end ClassDiagram
