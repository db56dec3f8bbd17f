import ClassDiagram.Text.Blank

/-!
# Namespaces

A namespace is written with `::` between its components. This file cleans such a name of template
arguments, writes it with dots for the ends of links, and writes a block of drawn text inside a
namespace.
-/
namespace ClassDiagram.Namespace
open Text

def opensArgument : Text → Bool
  | [] => false
  | c :: r => c ≠ '>' && r.contains '>'

def opensLater : Text → Bool
  | [] => false
  | c :: r => c ≠ '\n' && ((c = '<' && opensArgument r) || opensLater r)

inductive Scan where
  | fresh
  | behindText
  | inArgument
  deriving DecidableEq, Repr

/-- Takes away the last argument block of each line, and goes on behind it as at the start of a
line. A block at the very start of the stretch stays. -/
def dropLastArguments : Scan → Text → Text
  | _, [] => []
  | .inArgument, c :: r => dropLastArguments (if c = '>' then .fresh else .inArgument) r
  | .fresh, c :: r => c :: dropLastArguments (if c = '\n' then .fresh else .behindText) r
  | .behindText, c :: r =>
    if c = '<' && opensArgument r && !opensLater r then dropLastArguments .inArgument r
    else c :: dropLastArguments (if c = '\n' then .fresh else .behindText) r

/-- Takes away the brackets around each argument and keeps what stands between them. -/
def unwrapArguments (inside : Bool) : Text → Text
  | [] => []
  | c :: r =>
    if inside then
      if c = '>' then unwrapArguments false r else c :: unwrapArguments true r
    else if c = '<' && opensArgument r then unwrapArguments true r
    else c :: unwrapArguments false r

/-- Takes away the colons at the end, or in front of one line feed at the end. -/
def dropTrailingColons (t : Text) : Text :=
  if t.getLast? = some '\n' then dropTrailing ':' t.dropLast ++ ['\n'] else dropTrailing ':' t

def clean (t : Text) : Text :=
  dropTrailingColons (unwrapArguments false (dropLastArguments .fresh t))

def parts (t : Text) : List Text := if t = [] then [] else t.components

def dotted (t : Text) : Text := joinWith ['.'] t.components

/-- A line of a block, one tab further in. Empty lines stay empty. -/
def indentLine (line : Text) : Text := if line = [] then [] else '\t' :: line

/-- The name in the heading of a block; a block without a name is headed `None`. -/
def heading : Option Text → Text
  | none => "None".toList
  | some name => name

def wrap (name : Option Text) (body : Text) : Text :=
  "namespace ".toList ++ heading name ++ " \x7b\n".toList
    ++ joinWith ['\n'] (body.splitLines.map indentLine) ++ "\n\x7d\n".toList

end ClassDiagram.Namespace
