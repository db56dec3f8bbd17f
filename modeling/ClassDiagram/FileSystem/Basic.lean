import ClassDiagram.Fault

/-!
# File systems

A file system is a map from paths below a working directory to texts, with some directories that may
be empty. Directories are otherwise given by the files in them. The directories around the
working directory exist too: a path that leads up starts with `..` components, and one from the root
with the component `/`. Nothing else is known of them.

A path is written with slashes; it is walked component by component, so that going through a file or
a missing directory fails.
-/
namespace ClassDiagram
open Text

/-- Files by the components of their paths, and directories beside those that hold files. -/
structure FileSystem where
  files : List (List Text × Text)
  folders : List (List Text)
  deriving DecidableEq, Repr

namespace FileSystem

inductive Location where
  | file (path : List Text)
  | folder (path : List Text)
  /-- Nothing, but its directory is there. -/
  | vacant (path : List Text)
  /-- Nothing, and no directory for it either. -/
  | missing
  | blocked
  | overlong
  | unusable
  deriving DecidableEq, Repr

def parentName : Text := ['.', '.']

def rootName : Text := ['/']

def hasFolder (fs : FileSystem) (path : List Text) : Bool :=
  path.all (· = parentName) || path = [rootName] || fs.folders.any (path.isPrefixOf ·)
    || fs.files.any fun f => path.isPrefixOf f.1 && path ≠ f.1

def above (here : List Text) : List Text :=
  if here.all (· = parentName) then here ++ [parentName]
  else if here = [rootName] then here
  else here.dropLast

def nameLimit : Nat := 255

def pathLimit : Nat := 4095

def byteCount (t : Text) : Nat := (String.ofList t).utf8ByteSize

def walk (fs : FileSystem) : List Text → List Text → Location
  | here, [] => .folder here
  | here, w :: r =>
    if w = [] || w = ['.'] then walk fs here r
    else if w = parentName then walk fs (above here) r
    else if nameLimit < byteCount w then .overlong
    else if (fs.files.lookup (here ++ [w])).isSome then
      if r = [] then .file (here ++ [w]) else .blocked
    else if fs.hasFolder (here ++ [w]) then walk fs (here ++ [w]) r
    else if r.all (· = []) then .vacant (here ++ [w])
    else .missing

def origin (path : Text) : List Text := if path.head? = some '/' then [rootName] else []

def forbiddenChar : Char := '\x00'

def locate (fs : FileSystem) (path : Text) : Location :=
  if path.contains forbiddenChar then .unusable
  else if path = [] then .missing
  else if pathLimit < byteCount path then .overlong
  else fs.walk (origin path) (splitAtChar '/' path)

def present (fs : FileSystem) (path : Text) : Bool :=
  match fs.locate path with
  | .file _ => true
  | .folder _ => true
  | _ => false

def isFolder (fs : FileSystem) (path : Text) : Bool :=
  match fs.locate path with
  | .folder _ => true
  | _ => false

def read (fs : FileSystem) (path : Text) : Except Fault Text :=
  match fs.locate path with
  | .file p =>
    match fs.files.lookup p with
    | some t => .ok t
    | none => .error (.noSuchFile path)
  | .folder _ => .error (.isDirectory path)
  | .blocked => .error (.notDirectory path)
  | .vacant _ => .error (.noSuchFile path)
  | .missing => .error (.noSuchFile path)
  | .overlong => .error (.overlongName path)
  | .unusable => .error .unusablePath

/-- The header at a written path. `parse` says what the declarations in a file are, by its path and
its text, or why there are none. -/
def readHeader (parse : Text → Text → Except Text Header) (fs : FileSystem) (path : Text) :
    Except Fault Header := do
  (parse path (← fs.read path)).mapError .unparsable

def put (fs : FileSystem) (path : List Text) (t : Text) : FileSystem :=
  { fs with files := fs.files.filter (fun f => f.1 ≠ path) ++ [(path, t)] }

/-- Walks from a directory along components and makes the directories on the way, also those that
the way leaves again. -/
def makeWay (fs : FileSystem) : List Text → List Text → FileSystem × List Text
  | here, [] => (fs, here)
  | here, w :: r =>
    if w = [] || w = ['.'] then makeWay fs here r
    else if w = parentName then makeWay fs (above here) r
    else makeWay { fs with folders := fs.folders ++ [here ++ [w]] } (here ++ [w]) r

def addFolder (fs : FileSystem) (path : Text) : FileSystem :=
  (fs.makeWay (origin path) (splitAtChar '/' path)).1

def addFile (fs : FileSystem) (path t : Text) : FileSystem :=
  let components := splitAtChar '/' path
  let (fs, here) := fs.makeWay (origin path) components.dropLast
  fs.put (here ++ components.getLast?.toList) t

/-- Why no file can be written to a written path with a slash at its end: it stands for a directory,
whatever its last component is, unless the directory around that is not there. -/
def noFileAt (fs : FileSystem) (path : Text) : Fault :=
  if path.contains forbiddenChar then .unusablePath
  else if pathLimit < byteCount path then .overlongName path
  else
    match fs.walk (origin path) (splitAtChar '/' (dropTrailing '/' path)).dropLast with
    | .folder _ => .isDirectory path
    | .file _ => .notDirectory path
    | .blocked => .notDirectory path
    | .vacant _ => .noSuchFile path
    | .missing => .noSuchFile path
    | .overlong => .overlongName path
    | .unusable => .unusablePath

def grant (refusal : List Text → Option Text) (p : List Text) : Except Fault (List Text) :=
  match refusal p with
  | some reason => .error (.refused reason)
  | none => .ok p

/-- Opens a written path for writing, and gives the place of the file: the one that is there, or a new
one in a directory that is there. -/
def openFile (refusal : List Text → Option Text) (fs : FileSystem) (path : Text) :
    Except Fault (List Text) :=
  if path.getLast? = some '/' then .error (fs.noFileAt path)
  else
    match fs.locate path with
    | .file p => grant refusal p
    | .vacant p => grant refusal p
    | .folder _ => .error (.isDirectory path)
    | .blocked => .error (.notDirectory path)
    | .missing => .error (.noSuchFile path)
    | .overlong => .error (.overlongName path)
    | .unusable => .error .unusablePath

/-- The files that another file system does not have with the same text, by written path. -/
def changedFiles (fs before : FileSystem) : List (Text × Text) :=
  (fs.files.filter fun f => before.files.lookup f.1 ≠ some f.2).map fun f =>
    (joinWith ['/'] f.1, f.2)

def splitPath (path : Text) : Text × Text :=
  let last := (path.reverse.takeWhile (· ≠ '/')).reverse
  let head := path.take (path.length - last.length)
  (if head.all (· = '/') then head else dropTrailing '/' head, last)

def joinPath (dir name : Text) : Text :=
  if dir = [] || dir.getLast? = some '/' then dir ++ name else dir ++ '/' :: name

def lexicalStep (here : List Text) (w : Text) : List Text :=
  if w = [] || w = ['.'] then here else if w = parentName then above here else here ++ [w]

def lexicalPath (dir : Text) : List Text := (splitAtChar '/' dir).foldl lexicalStep (origin dir)

end FileSystem

end ClassDiagram
