import ClassDiagram.Template.Basic
import ClassDiagram.Template.Token

/-!
# The grammar of expressions

Expressions in templates are read from tokens by descent: each level of operators reads its operands
one level further down. Every expression of the grammar is read, so that a mistake in one is found
where it stands. One that turns out to be beyond the described language, or is larger than the
descent goes, makes the whole template so.

Whenever a token is taken, the next one is looked at, so that a place where the text cannot be cut
is found as soon as it is reached.
-/
namespace ClassDiagram.Template
open Text

abbrev Reading (α : Type) := List Token → Except Fault (α × List Token)

def advance : List Token → Except Fault (List Token)
  | _ :: .bad f :: _ => .error f
  | ts => .ok ts.tail

def shownNext : List Token → Text
  | [] => "end of template".toList
  | t :: _ => t.shown

def isNext (word : String) (ts : List Token) : Bool := ts.head? = some (.name word.toList)

def isSignNext (sign : String) (ts : List Token) : Bool := ts.head? = some (.sign sign.toList)

def skipWord (word : String) : Reading Bool := fun ts => do
  if isNext word ts then return (true, ← advance ts) else return (false, ts)

def refuse {α : Type} (expected : Text) : List Token → Except Fault α
  | [] => .error (.endInTag expected)
  | t :: _ => .error (.unexpectedToken expected t.shown)

/-- Reads a token that has to come; `shown` is the token as messages show it. -/
def expect (token : Token) (shown : Text) (ts : List Token) : Except Fault (List Token) :=
  if ts.head? = some token then advance ts else refuse shown ts

def expectSign (sign : String) (ts : List Token) : Except Fault (List Token) :=
  expect (.sign sign.toList) sign.toList ts

def expectName : Reading Text
  | .name n :: r => do return (n, ← advance (.name n :: r))
  | ts => refuse "name".toList ts

inductive TupleItem where
  | primary
  | plain
  | full
  deriving DecidableEq, Repr

structure Arguments where
  isEmpty : Bool
  named : Bool
  unpacked : Bool
  unpackedNamed : Bool
  deriving DecidableEq, Repr

/-- The kind of a binary expression, if its sign on a level comes next. The levels are, from the
loosest one on: disjunction, conjunction, negation, comparison, sum, concatenation, product, power.
-/
def binaryKind? (level : Nat) (ts : List Token) : Option String :=
  let signs : List (String × String) :=
    match level with
    | 4 => [("+", "add"), ("-", "sub")]
    | 5 => [("~", "concat")]
    | 6 => [("*", "mul"), ("/", "div"), ("//", "floordiv"), ("%", "mod")]
    | 7 => [("**", "pow")]
    | _ => []
  match level with
  | 0 => if isNext "or" ts then some "or" else none
  | 1 => if isNext "and" ts then some "and" else none
  | _ => (signs.find? fun s => isSignNext s.1 ts).map (·.2)

def binary (kind : String) (e f : Expr) : Expr :=
  if kind = "or" then .either e f
  else if kind = "and" then .both e f
  else .other kind.toList

def isComparison (ts : List Token) : Bool :=
  ["==", "!=", "<", "<=", ">", ">="].any fun s => isSignNext s ts

def ofWord (n : Text) : Expr :=
  let word := String.ofList n
  if ["true", "True"].contains word then .constant (.flag true)
  else if ["false", "False"].contains word then .constant (.flag false)
  else if ["none", "None"].contains word then .constant .none
  else .name n

def readStrings : Text → List Token → Except Fault (Text × List Token)
  | t, .string u :: .bad f :: r => readStrings (t ++ u) (.bad f :: r)
  | _, .bad f :: _ => .error f
  | t, .string u :: r => readStrings (t ++ u) r
  | t, ts => .ok (t, ts)

/-- Whether a tuple ends in front of the next token; `stop` is a word that ends it too. -/
def isTupleEnd (stop : Option String) (ts : List Token) : Bool :=
  ts.head? = some .placeEnd || ts.head? = some .tagEnd || isSignNext ")" ts
    || stop.any fun w => isNext w ts

def startsArgument (ts : List Token) : Bool :=
  let kind :=
    match ts with
    | .name _ :: _ => true
    | .string _ :: _ => true
    | .integer _ :: _ => true
    | .float :: _ => true
    | ts => isSignNext "[" ts || isSignNext "\x7b" ts
  kind && !(isNext "else" ts || isNext "or" ts || isNext "and" ts)

def readDottedName : Nat → Reading Unit
  | 0, ts => .ok ((), ts)
  | fuel + 1, ts => do
    let (_, ts) ← expectName ts
    if isSignNext "." ts then readDottedName fuel (← advance ts) else return ((), ts)

mutual

/-- Reads an expression, perhaps a choice by a condition. `fuel` bounds the depth. -/
def readFull : Nat → Reading Expr
  | 0, _ => .error .beyond
  | fuel + 1, ts => do
    let (e, ts) ← readLevel fuel 0 ts
    readChoice fuel e ts

def readChoice : Nat → Expr → Reading Expr
  | 0, _, _ => .error .beyond
  | fuel + 1, e, ts => do
    let (isChoice, ts) ← skipWord "if" ts
    if !isChoice then return (e, ts)
    else
      let (_, ts) ← readLevel fuel 0 ts
      let (hasElse, ts) ← skipWord "else" ts
      if hasElse then
        let (_, ts) ← readFull fuel ts
        readChoice fuel (.other "condexpr".toList) ts
      else readChoice fuel (.other "condexpr".toList) ts

def readLevel : Nat → Nat → Reading Expr
  | 0, _, _ => .error .beyond
  | fuel + 1, level, ts => do
    if level = 2 then
      if isNext "not" ts then
        let (e, ts) ← readLevel fuel 2 (← advance ts)
        return (.negation e, ts)
      else readLevel fuel 3 ts
    else if level = 3 then
      let (e, ts) ← readLevel fuel 4 ts
      readComparisons fuel e ts
    else if level < 8 then
      let (e, ts) ← readLevel fuel (level + 1) ts
      readOperands fuel level e ts
    else readUnary fuel true ts

def readOperands : Nat → Nat → Expr → Reading Expr
  | 0, _, _, _ => .error .beyond
  | fuel + 1, level, e, ts => do
    match binaryKind? level ts with
    | none => return (e, ts)
    | some kind =>
      let (f, ts) ← readLevel fuel (level + 1) (← advance ts)
      readOperands fuel level (binary kind e f) ts

def readComparisons : Nat → Expr → Reading Expr
  | 0, _, _ => .error .beyond
  | fuel + 1, e, ts => do
    let compare (ts : List Token) : Except Fault (Expr × List Token) := do
      let (_, ts) ← readLevel fuel 4 ts
      readComparisons fuel (.other "compare".toList) ts
    if isComparison ts || isNext "in" ts then compare (← advance ts)
    else if isNext "not" ts then
      let behind ← advance ts
      if isNext "in" behind then compare (← advance behind) else return (e, ts)
    else return (e, ts)

/-- Reads a sign and an operand, or what follows without a sign; filters belong to it or not. -/
def readUnary : Nat → Bool → Reading Expr
  | 0, _, _ => .error .beyond
  | fuel + 1, filtered, ts => do
    let (e, ts) ←
      if isSignNext "-" ts then do
        let (_, ts) ← readUnary fuel false (← advance ts)
        pure (Expr.other "neg".toList, ts)
      else if isSignNext "+" ts then do
        let (_, ts) ← readUnary fuel false (← advance ts)
        pure (Expr.other "pos".toList, ts)
      else readPrimary fuel ts
    let (e, ts) ← readSuffixes fuel e ts
    if filtered then readFilters fuel e ts else return (e, ts)

def readPrimary : Nat → Reading Expr
  | 0, _ => .error .beyond
  | fuel + 1, ts => do
    match ts with
    | .name n :: _ => return (ofWord n, ← advance ts)
    | .string _ :: _ =>
      let (t, ts) ← readStrings [] ts
      return (.constant (.text t), ts)
    | .integer n :: _ => return (.constant (.integer n), ← advance ts)
    | .float :: _ => return (.other "const".toList, ← advance ts)
    | ts =>
      if isSignNext "(" ts then
        let (e, ts) ← readTuple fuel .full none true (← advance ts)
        return (e, ← expectSign ")" ts)
      else if isSignNext "[" ts then
        let (isEmpty, ts) ← readItems fuel true (← advance ts)
        return (if isEmpty then .constant .emptyList else .other "list".toList,
          ← expectSign "]" ts)
      else if isSignNext "\x7b" ts then
        let (isEmpty, ts) ← readPairs fuel true (← advance ts)
        return (if isEmpty then .constant .emptyTable else .other "dict".toList,
          ← expectSign "\x7d" ts)
      else .error (.unexpected (shownNext ts))

def readTuple : Nat → TupleItem → Option String → Bool → Reading Expr
  | 0, _, _, _, _ => .error .beyond
  | fuel + 1, item, stop, inParentheses, ts => do
    let (items, isTuple, ts) ← readTupleItems fuel item stop [] ts
    if isTuple then return (.other "tuple".toList, ts)
    else
      match items with
      | e :: _ => return (e, ts)
      | [] =>
        if inParentheses then return (.constant .emptyTuple, ts)
        else .error (.noExpression (shownNext ts))

/-- Reads the items of a tuple and tells whether there was a comma; `items` have been read. -/
def readTupleItems :
    Nat → TupleItem → Option String → List Expr → List Token →
      Except Fault (List Expr × Bool × List Token)
  | 0, _, _, _, _ => .error .beyond
  | fuel + 1, item, stop, items, ts => do
    let ts ← if items.isEmpty then pure ts else expectSign "," ts
    if isTupleEnd stop ts then return (items, !items.isEmpty, ts)
    else
      let (e, ts) ←
        match item with
        | .primary => readPrimary fuel ts
        | .plain => readLevel fuel 0 ts
        | .full => readFull fuel ts
      if isSignNext "," ts then readTupleItems fuel item stop (items ++ [e]) ts
      else return (items ++ [e], !items.isEmpty, ts)

/-- Reads the items of a list up to its closing bracket, and tells whether there were none; `first`
is whether none has been read. -/
def readItems : Nat → Bool → Reading Bool
  | 0, _, _ => .error .beyond
  | fuel + 1, first, ts => do
    if isSignNext "]" ts then return (first, ts)
    else
      let ts ← if first then pure ts else expectSign "," ts
      if isSignNext "]" ts then return (first, ts)
      else
        let (_, ts) ← readFull fuel ts
        readItems fuel false ts

def readPairs : Nat → Bool → Reading Bool
  | 0, _, _ => .error .beyond
  | fuel + 1, first, ts => do
    if isSignNext "\x7d" ts then return (first, ts)
    else
      let ts ← if first then pure ts else expectSign "," ts
      if isSignNext "\x7d" ts then return (first, ts)
      else
        let (_, ts) ← readFull fuel ts
        let (_, ts) ← readFull fuel (← expectSign ":" ts)
        readPairs fuel false ts

def readSuffixes : Nat → Expr → Reading Expr
  | 0, _, _ => .error .beyond
  | fuel + 1, e, ts => do
    if isSignNext "." ts then
      let behind ← advance ts
      let rest ← advance behind
      match behind with
      | .name n :: _ => readSuffixes fuel (.field e n) rest
      | .integer _ :: _ => readSuffixes fuel (.other "getitem".toList) rest
      | _ => .error .noFieldName
    else if isSignNext "[" ts then
      let (_, ts) ← readSubscripts fuel true (← advance ts)
      readSuffixes fuel (.other "getitem".toList) ts
    else if isSignNext "(" ts then
      let (f, ts) ← readCall fuel e ts
      readSuffixes fuel f ts
    else return (e, ts)

def readFilters : Nat → Expr → Reading Expr
  | 0, _, _ => .error .beyond
  | fuel + 1, e, ts => do
    if isSignNext "|" ts then
      let (_, ts) ← readDottedName fuel (← advance ts)
      let (_, ts) ←
        if isSignNext "(" ts then readArguments fuel ⟨true, false, false, false⟩ (← advance ts)
        else pure (⟨true, false, false, false⟩, ts)
      readFilters fuel (.other "filter".toList) ts
    else if isNext "is" ts then
      let (_, ts) ← skipWord "not" (← advance ts)
      let (_, ts) ← readDottedName fuel ts
      let ts ←
        if isSignNext "(" ts then do
          let (_, ts) ← readArguments fuel ⟨true, false, false, false⟩ (← advance ts)
          pure ts
        else if startsArgument ts then
          if isNext "is" ts then .error .chainedTests
          else do
            let (f, ts) ← readPrimary fuel ts
            let (_, ts) ← readSuffixes fuel f ts
            pure ts
        else pure ts
      readFilters fuel (.other "test".toList) ts
    else if isSignNext "(" ts then
      let (f, ts) ← readCall fuel e ts
      readFilters fuel f ts
    else return (e, ts)

def readCall : Nat → Expr → Reading Expr
  | 0, _, _ => .error .beyond
  | fuel + 1, e, ts => do
    let (arguments, ts) ← readArguments fuel ⟨true, false, false, false⟩ (← advance ts)
    return (if arguments.isEmpty then .call e else .other "call".toList, ts)

def readArguments : Nat → Arguments → Reading Arguments
  | 0, _, _ => .error .beyond
  | fuel + 1, a, ts => do
    if isSignNext ")" ts then return (a, ← advance ts)
    else
      let ts ← if a.isEmpty then pure ts else expectSign "," ts
      if isSignNext ")" ts && !a.isEmpty then return (a, ← advance ts)
      else
        let go (b : Arguments) (ts : List Token) : Except Fault (Arguments × List Token) := do
          let (_, ts) ← readFull fuel ts
          readArguments fuel { b with isEmpty := false } ts
        if isSignNext "*" ts then
          if a.unpacked || a.unpackedNamed then .error .badArguments
          else go { a with unpacked := true } (← advance ts)
        else if isSignNext "**" ts then
          if a.unpackedNamed then .error .badArguments
          else go { a with unpackedNamed := true } (← advance ts)
        else
          let behind ←
            match ts with
            | .name _ :: _ => advance ts
            | _ => pure []
          if isSignNext "=" behind then
            if a.unpackedNamed then .error .badArguments
            else go { a with named := true } (← advance behind)
          else if a.unpacked || a.unpackedNamed || a.named then .error .badArguments
          else go a ts

def readSubscripts : Nat → Bool → Reading Unit
  | 0, _, _ => .error .beyond
  | fuel + 1, first, ts => do
    if isSignNext "]" ts then return ((), ← advance ts)
    else
      let ts ← if first then pure ts else expectSign "," ts
      let (_, ts) ← readSubscript fuel ts
      readSubscripts fuel false ts

def readSubscript : Nat → Reading Unit
  | 0, _ => .error .beyond
  | fuel + 1, ts => do
    let isBound (ts : List Token) : Bool := !(isSignNext "]" ts || isSignNext "," ts)
    let skipped (ts : List Token) : Except Fault (List Token) := do
      let (_, ts) ← readFull fuel ts
      return ts
    let ts ← if isSignNext ":" ts then pure ts else skipped ts
    if !isSignNext ":" ts then return ((), ts)
    else
      let ts ← advance ts
      let ts ← if !isSignNext ":" ts && isBound ts then skipped ts else pure ts
      if !isSignNext ":" ts then return ((), ts)
      else
        let ts ← advance ts
        let ts ← if isBound ts then skipped ts else pure ts
        return ((), ts)

end

/-- How far the descent into an expression goes: every level of operators, brackets and arguments
around a token counts. -/
def expressionLimit : Nat := 120

/-- What has been read, unless it is beyond the described language. -/
def described (read : Expr × List Token) : Except Fault (Expr × List Token) :=
  if read.1.isDescribed then .ok read else .error .beyond

def readExpr : Reading Expr := fun ts => do described (← readFull expressionLimit ts)

def readValue (item : TupleItem) (stop : Option String) : Reading Expr := fun ts => do
  described (← readTuple expressionLimit item stop false ts)

def Expr.kind : Expr → Text
  | .name _ => "name".toList
  | .constant .emptyList => "list".toList
  | .constant .emptyTuple => "tuple".toList
  | .constant .emptyTable => "dict".toList
  | .constant _ => "const".toList
  | .field _ _ => "getattr".toList
  | .call _ => "call".toList
  | .negation _ => "not".toList
  | .both _ _ => "and".toList
  | .either _ _ => "or".toList
  | .other kind => kind

def readVariable : Reading Text := fun ts => do
  let (e, ts) ← readValue .primary (some "in") ts
  match e with
  | .name n => return (n, ts)
  | e => .error (.noVariable e.kind)

end ClassDiagram.Template
