import ClassDiagram.FileSystem.Basic

/-!
# Wildcards

A component of a written path may have wildcards: `*` for any characters, `?` for one, and sets in
brackets. They match the names in a directory, but not hidden ones unless the component itself
starts with a dot. The component `**` stands for any number of directories, none of them hidden.
Whether it stands for none at all also behind something that is no directory is left open by
`keepsBase`: earlier readings of `**` do so, later ones do not.
-/
namespace ClassDiagram
open Text

namespace Wildcard

inductive Item where
  | many
  | one
  | set (negated : Bool) (ranges : List (Char × Char))
  | char (c : Char)
  deriving DecidableEq, Repr

/-- The pieces of a set between the hyphens that make ranges: a hyphen does so behind at least
`lead` characters of the first piece and two of any other. `fuel` bounds the length of the set. -/
def piecesWithin : Nat → Nat → Text → List Text
  | 0, _, t => [t]
  | fuel + 1, lead, t =>
    let rest := t.drop lead
    match rest.dropWhile (· ≠ '-') with
    | [] => [t]
    | _ :: after => (t.take lead ++ rest.takeWhile (· ≠ '-')) :: piecesWithin fuel 2 after

def pieces (t : Text) : List Text :=
  let ps := piecesWithin t.length (if t.head? = some '!' then 2 else 1) t
  if ps.getLast? = some [] then
    ps.dropLast.dropLast ++ [(ps.dropLast.getLast?.getD []) ++ ['-']]
  else ps

def dropEmptyRanges : List Text → List Text
  | [] => []
  | p :: r =>
    match dropEmptyRanges r with
    | [] => [p]
    | q :: r' =>
      match p.getLast?, q.head? with
      | some lo, some hi =>
        if hi < lo then (p.dropLast ++ q.tail) :: r' else p :: q :: r'
      | _, _ => p :: q :: r'

/-- The ranges that a piece and those behind it stand for: one from each piece to the next, and
every other character alone. -/
def rangesOf : Text → List Text → List (Char × Char)
  | p, [] => p.map fun c => (c, c)
  | p, q :: r =>
    match p.getLast?, q.head? with
    | some lo, some hi => p.dropLast.map (fun c => (c, c)) ++ (lo, hi) :: rangesOf q.tail r
    | _, _ => p.map (fun c => (c, c)) ++ rangesOf q r

/-- The item for what stands between brackets. An exclamation mark in front of the ranges that are
left negates the set; if a hyphen comes right behind it, that is a member. -/
def setOf (t : Text) : Item :=
  match dropEmptyRanges (pieces t) with
  | [['!']] => .one
  | ['!'] :: q :: r => .set true (('-', '-') :: rangesOf q r)
  | ('!' :: p) :: r => .set true (rangesOf p r)
  | p :: r => .set false (rangesOf p r)
  | [] => .set false []

/-- The set behind an opening bracket and the text behind the set. A closing bracket at its start is
a member. -/
def splitSet (t : Text) : Option (Item × Text) :=
  let first := t.take (if t.head? = some '!' then 1 else 0)
  let body := t.drop first.length
  let second := body.take (if body.head? = some ']' then 1 else 0)
  let rest := body.drop second.length
  match rest.dropWhile (· ≠ ']') with
  | [] => none
  | _ :: after => some (setOf (first ++ second ++ rest.takeWhile (· ≠ ']')), after)

/-- The items of a component; `fuel` bounds its length. A bracket that is never closed is literal.
-/
def itemsWithin : Nat → Text → List Item
  | 0, _ => []
  | _, [] => []
  | fuel + 1, c :: r =>
    if c = '*' then .many :: itemsWithin fuel r
    else if c = '?' then .one :: itemsWithin fuel r
    else if c = '[' then
      match splitSet r with
      | some (item, after) => item :: itemsWithin fuel after
      | none => .char c :: itemsWithin fuel r
    else .char c :: itemsWithin fuel r

def items (t : Text) : List Item := itemsWithin t.length t

def suffixes : Text → List Text
  | [] => [[]]
  | c :: r => (c :: r) :: suffixes r

def Item.admits (c : Char) : Item → Bool
  | .many => true
  | .one => true
  | .set negated ranges => (ranges.any fun (lo, hi) => lo ≤ c && c ≤ hi) != negated
  | .char d => c = d

/-- What is left behind an item of any of some texts, which are ends of one text, longest first. -/
def Item.rest (item : Item) (ends : List Text) : List Text :=
  match item with
  | .many =>
    match ends with
    | [] => []
    | t :: _ => suffixes t
  | item => ends.filterMap fun t =>
    match t with
    | [] => none
    | c :: r => if item.admits c then some r else none

def fits (items : List Item) (name : Text) : Bool :=
  (items.foldl (fun ends item => item.rest ends) [name]).any List.isEmpty

def hasWildcard (t : Text) : Bool := t.any fun c => c = '*' || c = '?' || c = '['

def isHidden (name : Text) : Bool := name.head? = some '.'

def anyDepth : Text := ['*', '*']

end Wildcard

namespace FileSystem
open Wildcard

def nextBelow (dir path : List Text) : Option Text :=
  if dir.isPrefixOf path then (path.drop dir.length).head? else none

def namesIn (fs : FileSystem) (dir : List Text) : List Text :=
  (fs.files.filterMap (fun f => nextBelow dir f.1)
    ++ fs.folders.filterMap (nextBelow dir)).eraseDups

def listFolder (fs : FileSystem) (foldersOnly : Bool) (dir : Text) : List Text :=
  match (if dir = [] then Location.folder [] else fs.locate dir) with
  | .folder path =>
    (fs.namesIn path).filter fun name => !foldersOnly || fs.hasFolder (path ++ [name])
  | _ => []

def listBelow (fs : FileSystem) (foldersOnly : Bool) : Nat → Text → List Text
  | 0, _ => []
  | fuel + 1, dir =>
    ((fs.listFolder foldersOnly dir).filter fun name => !isHidden name).flatMap fun name =>
      name :: (listBelow fs foldersOnly fuel (joinPath dir name)).map (joinPath name)

def depth (fs : FileSystem) : Nat :=
  ((fs.files.map fun f => f.1.length) ++ fs.folders.map List.length).foldl max 0

def matchesIn (keepsBase : Bool) (fs : FileSystem) (foldersOnly : Bool) (dir component : Text) :
    List Text :=
  if component = anyDepth then
    (if keepsBase || dir = [] || fs.isFolder dir then [[]] else [])
      ++ fs.listBelow foldersOnly (fs.depth + 1) dir
  else if hasWildcard component then
    (fs.listFolder foldersOnly dir).filter fun name =>
      (isHidden component || !isHidden name) && fits (items component) name
  else if component = [] then (if fs.isFolder dir then [[]] else [])
  else if fs.present (joinPath dir component) then [component]
  else []

def expandWithin (keepsBase : Bool) (fs : FileSystem) : Nat → Bool → Text → List Text
  | 0, _, _ => []
  | fuel + 1, foldersOnly, path =>
    let (dir, component) := splitPath path
    if !hasWildcard path then
      if (if component = [] then fs.isFolder dir else fs.present path) then [path] else []
    else
      let dirs := if hasWildcard dir then expandWithin keepsBase fs fuel true dir else [dir]
      dirs.flatMap fun dir => (matchesIn keepsBase fs foldersOnly dir component).map (joinPath dir)

/-- Whether a written path with wildcards names a directory that cannot be listed, because its text
cannot be a path. -/
def listsUnusable (path : Text) : Bool :=
  let components := splitAtChar '/' path
  let front := components.takeWhile fun w => !hasWildcard w
  front.length < components.length && front.any (·.contains forbiddenChar)

def expand (keepsBase : Bool) (fs : FileSystem) (path : Text) : Except Fault (List Text) :=
  if listsUnusable path then .error .unusablePath
  else .ok ((expandWithin keepsBase fs (path.length + 1) false path).filter (· ≠ []))

/-- The written paths that several stand for; repetitions stay. -/
def expandAll (keepsBase : Bool) (fs : FileSystem) (paths : List Text) :
    Except Fault (List Text) := do
  return (← paths.mapM (expand keepsBase fs)).flatten

end FileSystem

end ClassDiagram
