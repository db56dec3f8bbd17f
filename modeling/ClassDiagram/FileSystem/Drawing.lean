import ClassDiagram.Diagram.Render
import ClassDiagram.FileSystem.Wildcard
import ClassDiagram.Template.Reading

/-!
# Drawing files

A diagram of all header files that some paths stand for is drawn and then written to a file or to
the standard output. Nothing is written before the whole text is there. How declarations are read, in
which order the files come, what templates beyond the described language show and which places may be
written to is left to the surroundings of a run.
-/
namespace ClassDiagram
open Text

structure Settings where
  withDependencies : Bool := false
  template : Option Text := none
  deriving DecidableEq, Repr

structure Report where
  outcome : Except Fault Nat
  stdout : Text := []
  stderr : Text := []
  files : FileSystem

/-- What a run meets beside the files, and what is not described further. -/
structure Surroundings where
  /-- The declarations in a file, by its path and its text, or why they cannot be read. -/
  parse : Text → Text → Except Text Header
  /-- Whether `**` behind something that is no directory stands for that. -/
  keepsBase : Bool
  /-- The order in which the different ones of some paths are read. -/
  order : List Text → List Text
  order_perm : ∀ paths, (order paths).Perm paths.eraseDups
  /-- What templates beyond the described language show, or why they show nothing. -/
  showOther : FileSystem → Settings → Diagram → Except Text Text
  refusal : FileSystem → List Text → Option Text

namespace FileSystem

def templateIn (fs : FileSystem) (dir path : List Text) : Option Text := fs.files.lookup (dir ++ path)

def templatePath (name : Text) : Option (List Text) :=
  let components := splitAtChar '/' name
  if components.contains parentName then none
  else some (components.filter fun w => w ≠ [] && w ≠ ['.'])

/-- Finds templates for a template file: in its own directory first, and then the standard one. -/
def findTemplate (fs : FileSystem) (file : Option Text) (name : Text) : Except Fault Template :=
  match templatePath name with
  | none => .error (.noTemplate name)
  | some path =>
    match file.bind fun f => fs.templateIn (lexicalPath (splitPath f).1) path with
    | some t => (Template.parse t).mapError .template
    | none =>
      if path = [Template.standardName] then .ok Template.standard else .error (.noTemplate name)

def templateName (settings : Settings) : Text :=
  settings.template.elim Template.standardName fun f => (splitPath f).2

/-- How many templates extend each other in the described language. -/
def extensionLimit : Nat := 50

def renderDiagram (fs : FileSystem) (settings : Settings) (d : Diagram) : Except Fault Text := do
  let find := fs.findTemplate settings.template
  (← find (templateName settings)).draw find (d.context settings.withDependencies) extensionLimit

end FileSystem

namespace Surroundings
variable (s : Surroundings) (fs : FileSystem)

def renderDiagram (settings : Settings) (d : Diagram) : Except Fault Text :=
  match fs.renderDiagram settings d with
  | .error (.template .beyond) => (s.showOther fs settings d).mapError .otherTemplate
  | result => result

/-- The text of the diagram of all header files that some paths stand for. A file that several of
them stand for by the same path is read once. -/
def drawing (settings : Settings) (inputs : List Text) : Except Fault Text := do
  let paths ← fs.expandAll s.keepsBase inputs
  match Diagram.create settings.withDependencies ((s.order paths).map (fs.readHeader s.parse)) {} with
  | (_, some f) => .error f
  | (d, none) => s.renderDiagram fs settings d

/-- Draws the diagram and writes it to a file, or to the standard output with a line feed behind it.
-/
def draw (settings : Settings) (inputs : List Text) (output : Option Text) : Report :=
  match s.drawing fs settings inputs with
  | .error f => { outcome := .error f, files := fs }
  | .ok t =>
    match output with
    | none => { outcome := .ok 0, stdout := t ++ ['\n'], files := fs }
    | some path =>
      match fs.openFile (s.refusal fs) path with
      | .error f => { outcome := .error f, files := fs }
      | .ok p => { outcome := .ok 0, files := fs.put p t }

end Surroundings

end ClassDiagram
