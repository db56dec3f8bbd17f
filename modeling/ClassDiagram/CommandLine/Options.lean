import ClassDiagram.FileSystem.Drawing

/-!
# Command-line options

Options have a long name and mostly a short one. A long name may be cut short as long as one option
is meant, and takes its value behind `=` or as the next argument; a short one may have its value
joined to it, and short options without a value may be grouped in one argument. Help and version act
as soon as they are met. All other arguments are collected and refused at the end. The mark `--`,
behind which no argument is an option, is dropped where it is joined to an option as its value.
-/
namespace ClassDiagram.CommandLine
open Text

inductive Switch where
  | help
  | input
  | output
  | dependency
  | template
  | version
  deriving DecidableEq, Repr

namespace Switch

def all : List Switch := [.help, .input, .output, .dependency, .template, .version]

def letter : Switch → Option Char
  | .help => some 'h'
  | .input => some 'i'
  | .output => some 'o'
  | .dependency => some 'd'
  | .template => some 't'
  | .version => none

def long : Switch → Text
  | .help => "--help".toList
  | .input => "--input-file".toList
  | .output => "--output-file".toList
  | .dependency => "--enable-dependency".toList
  | .template => "--template-file".toList
  | .version => "--version".toList

def takesValue : Switch → Bool
  | .input => true
  | .output => true
  | .template => true
  | _ => false

def short (s : Switch) : Option Text := s.letter.map fun c => ['-', c]

def shown (s : Switch) : Text :=
  match s.short with
  | some name => name ++ '/' :: s.long
  | none => s.long

def ofLetter (c : Char) : Option Switch := all.find? fun s => s.letter = some c

def ofName (name : Text) : Option Switch := all.find? fun s => s.short = some name || s.long = name

end Switch

inductive UsageError where
  | valueExpected (s : Switch)
  | valueIgnored (s : Switch) (value : Text)
  | ambiguous (argument : Text) (names : List Text)
  | inputRequired
  | unrecognized (arguments : List Text)
  deriving DecidableEq, Repr

def UsageError.message : UsageError → Text
  | .valueExpected s => "argument ".toList ++ s.shown ++ ": expected one argument".toList
  | .valueIgnored s value =>
    "argument ".toList ++ s.shown ++ ": ignored explicit argument ".toList ++ value.quoted
  | .ambiguous argument names =>
    "ambiguous option: ".toList ++ argument ++ " could match ".toList ++ joinWith ", ".toList names
  | .inputRequired =>
    "the following arguments are required: ".toList ++ Switch.input.shown
  | .unrecognized arguments => "unrecognized arguments: ".toList ++ joinWith [' '] arguments

inductive Argument where
  | plain (t : Text)
  /-- An option by its short or long name, with a value of its own or none. -/
  | option (s : Switch) (isShort : Bool) (joined : Option Text)
  | unknown (t : Text)
  | endOfOptions
  deriving DecidableEq, Repr

/-- Whether a text reads as a negative number, perhaps with a line feed behind it. -/
def isNegativeNumber (t : Text) : Bool :=
  let number := if t.getLast? = some '\n' then t.dropLast else t
  let whole := (number.drop 1).takeWhile isDecimal
  let rest := (number.drop 1).dropWhile isDecimal
  number.head? = some '-' &&
    ((rest = [] && whole ≠ []) ||
      (rest.head? = some '.' && rest.tail ≠ [] && rest.tail.all isDecimal))

def completions (start : Text) : List Switch := Switch.all.filter fun s => start.isPrefixOf s.long

def classifyOther (t : Text) : Except UsageError Argument :=
  let name := t.takeWhile (· ≠ '=')
  let value := (t.dropWhile (· ≠ '=')).tail
  let joined := if t.contains '=' then some value else none
  match if t.contains '=' then Switch.ofName name else none with
  | some s => .ok (.option s (s.short = some name) joined)
  | none =>
    if t.take 2 = ['-', '-'] then
      match completions name with
      | [] => .ok (if t.contains ' ' then .plain t else .unknown t)
      | [s] => .ok (.option s false joined)
      | many => .error (.ambiguous t (many.map Switch.long))
    else
      match Switch.ofName (t.take 2) with
      | some s => .ok (.option s true (some (t.drop 2)))
      | none => .ok (if isNegativeNumber t || t.contains ' ' then .plain t else .unknown t)

def classify (t : Text) : Except UsageError Argument :=
  if t.head? ≠ some '-' || t.length = 1 then .ok (.plain t)
  else
    match Switch.ofName t with
    | some s => .ok (.option s (s.short = some t) none)
    | none => classifyOther t

/-- What the arguments are: behind the first `--` none is an option. -/
def classifyAll : List Text → Except UsageError (List Argument)
  | [] => .ok []
  | t :: r => do
    if t = ['-', '-'] then return .endOfOptions :: r.map .plain
    let a ← classify t
    let rest ← classifyAll r
    return a :: rest

abbrev Act := Switch × Option Text

/-- The acts of an option with a text joined to it. An option without a value takes the characters
of the text as further short options. -/
def ungroup (s : Switch) (isShort : Bool) : Text → Except UsageError (List Act)
  | [] => if s.takesValue then .ok [(s, some [])] else .error (.valueIgnored s [])
  | c :: r =>
    if s.takesValue then .ok [(s, some (c :: r))]
    else if !isShort then .error (.valueIgnored s (c :: r))
    else
      match Switch.ofLetter c, r with
      | none, _ => .error (.valueIgnored s (c :: r))
      | some next, [] => .ok [(s, none), (next, none)]
      | some next, d :: r' => do return (s, none) :: (← ungroup next true (d :: r'))

def actsOf (s : Switch) (isShort : Bool) : Option Text → Except UsageError (List Act)
  | none => .ok [(s, none)]
  | some joined => ungroup s isShort joined

/-- What an option gets: a value, or nothing where its value was dropped. -/
abbrev Given := Option Text

def given (t : Text) : Given := if t = ['-', '-'] then none else some t

structure Order where
  inputs : List Given := []
  output : Option Given := none
  template : Option Given := none
  withDependencies : Bool := false
  deriving DecidableEq, Repr

inductive Request where
  | help
  | version
  | draw (order : Order)
  deriving DecidableEq, Repr

structure Progress where
  order : Order := {}
  extra : List Text := []
  deriving DecidableEq, Repr

def Progress.change (p : Progress) (f : Order → Order) : Request ⊕ Progress :=
  .inr { p with order := f p.order }

/-- Acts on one option: either the run is decided, or reading goes on. -/
def act (p : Progress) : Act → Request ⊕ Progress
  | (.help, _) => .inl .help
  | (.version, _) => .inl .version
  | (.dependency, _) => p.change fun o => { o with withDependencies := true }
  | (.input, v) => p.change fun o => { o with inputs := o.inputs ++ [given (v.getD [])] }
  | (.output, v) => p.change fun o => { o with output := some (given (v.getD [])) }
  | (.template, v) => p.change fun o => { o with template := some (given (v.getD [])) }

def actAll (p : Progress) : List Act → Request ⊕ Progress
  | [] => .inr p
  | a :: r =>
    match act p a with
    | .inl request => .inl request
    | .inr p => actAll p r

/-- The last option to act on, if it still needs the next argument as its value. -/
def needsValue (acts : List Act) : Option Switch :=
  match acts.getLast? with
  | some (s, none) => if s.takesValue then some s else none
  | _ => none

def finish (p : Progress) : Except UsageError Request :=
  if p.order.inputs = [] then .error .inputRequired
  else if p.extra = [] then .ok (.draw p.order)
  else .error (.unrecognized p.extra)

def consume : Progress → List Argument → Except UsageError Request
  | p, [] => finish p
  | p, .plain t :: r => consume { p with extra := p.extra ++ [t] } r
  | p, .unknown t :: r => consume { p with extra := p.extra ++ [t] } r
  | p, .endOfOptions :: r => consume { p with extra := p.extra ++ [['-', '-']] } r
  | p, .option s isShort joined :: r => do
    let acts ← actsOf s isShort joined
    match needsValue acts with
    | none =>
      match actAll p acts with
      | .inl request => .ok request
      | .inr p => consume p r
    | some needing =>
      match r with
      | .plain v :: r' =>
        match actAll p (acts.dropLast ++ [(needing, some v)]) with
        | .inl request => .ok request
        | .inr p => consume p r'
      | _ => .error (.valueExpected needing)

def parse (arguments : List Text) : Except UsageError Request := do
  consume {} (← classifyAll arguments)

end ClassDiagram.CommandLine
