import ClassDiagram.Template.Basic

/-!
# Values in templates

What names and expressions in a template stand for. A value can be shown as text, gone through
element by element, asked for a field and called; what a value cannot do is said by a fault. A name
that stands for nothing has a value too, which fails only when something is done with it.

Of what can be drawn only the drawing is described. Its other fields are beyond that, and so are those
of lists, texts and numbers, the state of a loop, and how such values look as text.
-/
namespace ClassDiagram.Template
open Text

inductive Value where
  | constant (c : Constant)
  | listing (elements : List Value)
  /-- Something that can be drawn, what it is, and its elements if it has any. -/
  | element (kind : Text) (drawn : Except ClassDiagram.Fault Text) (elements : Option (List Value))
  | method (drawn : Except ClassDiagram.Fault Text)
  /-- One of `count` blocks of a name, which replace each other; `drawn` gives the text of each. -/
  | layer (name : Text) (level count : Nat) (drawn : Nat → Except ClassDiagram.Fault Text)
  /-- All blocks: how many there are of a name, and the text of each. -/
  | blockTable (count : Text → Nat) (drawn : Text → Nat → Except ClassDiagram.Fault Text)
  | loop
  | tool (kind : Text)
  | missing (reason : Fault)

namespace Value

def ofConstant : Constant → Text
  | .text _ => "str".toList
  | .integer _ => "int".toList
  | .flag _ => "bool".toList
  | .none => "NoneType".toList
  | .emptyList => "list".toList
  | .emptyTuple => "tuple".toList
  | .emptyTable => "dict".toList

def kind : Value → Text
  | .constant c => ofConstant c
  | .listing _ => "list".toList
  | .element kind _ _ => kind
  | .method _ => "method".toList
  | .layer _ _ _ _ => "BlockReference".toList
  | .blockTable _ _ => "TemplateReference".toList
  | .loop => "LoopContext".toList
  | .tool kind => kind
  | .missing _ => "Undefined".toList

/-- A value without such a field, as messages say it: what it is and where that is known. -/
def owner (v : Value) : Text :=
  match v with
  | .constant .none => "None".toList
  | .layer _ _ _ _ => "jinja2.runtime.".toList ++ v.kind ++ " object".toList
  | .blockTable _ _ => "jinja2.runtime.".toList ++ v.kind ++ " object".toList
  | .loop => "jinja2.runtime.".toList ++ v.kind ++ " object".toList
  | v => v.kind ++ " object".toList

def truth : Value → Bool
  | .constant (.text t) => !t.isEmpty
  | .constant (.integer n) => n ≠ 0
  | .constant (.flag b) => b
  | .constant _ => false
  | .listing elements => !elements.isEmpty
  | .element _ _ (some elements) => !elements.isEmpty
  | .missing _ => false
  | _ => true

def textOf : Constant → Text
  | .text t => t
  | .integer n => Nat.toDigits 10 n
  | .flag b => if b then "True".toList else "False".toList
  | .none => "None".toList
  | .emptyList => "[]".toList
  | .emptyTuple => "()".toList
  | .emptyTable => "\x7b\x7d".toList

/-- The text of a value where it is filled in; no value has none. -/
def shown : Value → Except ClassDiagram.Fault Text
  | .constant c => .ok (textOf c)
  | .listing [] => .ok (textOf .emptyList)
  | .missing _ => .ok []
  | _ => .error (.template .beyond)

def elements (v : Value) : Except ClassDiagram.Fault (List Value) :=
  match v with
  | .listing elements => .ok elements
  | .element _ _ (some elements) => .ok elements
  | .constant (.text t) => .ok (t.map fun c => .constant (.text [c]))
  | .constant .emptyList => .ok []
  | .constant .emptyTuple => .ok []
  | .constant .emptyTable => .ok []
  | .missing _ => .ok []
  | .loop => .error (.template .beyond)
  | .blockTable _ _ => .error (.template (.noBlockAt 0))
  | v => .error (.template (.notIterable v.kind))

def block (name : Text) (level count : Nat) (drawn : Nat → Except ClassDiagram.Fault Text) :
    Value :=
  if level < count then .layer name level count drawn else .missing (.noEarlierBlock name)

def drawingField : Text := "render".toList

/-- A field of a value: what can be drawn has a method for it, a block has its name and the block
that it replaces, and all blocks are fields of the whole. Nothing else has a method for its drawing.
-/
def field (v : Value) (n : Text) : Except ClassDiagram.Fault Value :=
  let nothing : Value := .missing (.noField v.owner n)
  let isInner := n.head? = some '_'
  match v with
  | .element _ drawn _ =>
    if n = drawingField then .ok (.method drawn) else .error (.template .beyond)
  | .missing reason => .error (.template (if isInner then .beyond else reason))
  | .blockTable count drawn =>
    if isInner then .error (.template .beyond)
    else .ok (if count n = 0 then nothing else .layer n 0 (count n) (drawn n))
  | .layer name level count drawn =>
    if n = "super".toList then .ok (block name (level + 1) count drawn)
    else if n = "name".toList then .ok (.constant (.text name))
    else if n = drawingField then .ok nothing
    else .error (.template .beyond)
  | _ => if n = drawingField then .ok nothing else .error (.template .beyond)

def call : Value → Except ClassDiagram.Fault Value
  | .method drawn => drawn.map fun t => .constant (.text t)
  | .layer _ level _ drawn => (drawn level).map fun t => .constant (.text t)
  | .missing reason => .error (.template reason)
  | .tool _ => .error (.template .beyond)
  | .loop => .error (.template .beyond)
  | v => .error (.template (.notCallable v.kind))

def isHashable : Value → Bool
  | .listing _ => false
  | .element _ _ (some _) => false
  | .constant .emptyList => false
  | .constant .emptyTable => false
  | _ => true

def templateName (v : Value) : Except ClassDiagram.Fault Text :=
  match v with
  | .constant (.text t) => .ok t
  | .missing reason => .error (.template reason)
  | v => .error (.template (if v.isHashable then .notText v.kind else .unhashable v.kind))

end Value

abbrev Context := Text → Option Value

abbrev Bindings := List (Text × Value)

def tools : Context := fun n =>
  if ["range", "dict", "cycler", "joiner", "namespace"].contains (String.ofList n) then
    some (.tool "type".toList)
  else if n = "lipsum".toList then some (.tool "function".toList)
  else none

end ClassDiagram.Template
