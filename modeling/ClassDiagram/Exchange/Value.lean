import ClassDiagram.Text.Basic

/-!
# Exchanged values

The values in which headers and package data are exchanged with other programs: texts, numbers and
flags in lists and records. `Value.parse` reads their JSON notation.
-/
namespace ClassDiagram.Exchange
open Text

inductive Value where
  | null
  | flag (b : Bool)
  | number (literal : Text)
  | text (t : Text)
  | list (items : List Value)
  | record (fields : List (Text × Value))
  deriving Repr

namespace Value

def field? (v : Value) (name : String) : Option Value :=
  match v with
  | .record fields => fields.lookup name.toList
  | _ => none

/-- The field of a record, if it is there and not null. -/
def value? (v : Value) (name : String) : Option Value :=
  match v.field? name with
  | some .null => none
  | found => found

def toText : Value → Text
  | .text t => t
  | _ => []

def toList : Value → List Value
  | .list items => items
  | _ => []

def toFields : Value → List (Text × Value)
  | .record fields => fields
  | _ => []

def text? (v : Value) (name : String) : Option Text := (v.value? name).map toText

def items (v : Value) (name : String) : List Value := ((v.field? name).map toList).getD []

/-- Whether a number is other than zero: a digit in front of the exponent is. -/
def isNonzero (literal : Text) : Bool :=
  (literal.takeWhile fun c => c ≠ 'e' && c ≠ 'E').any fun c => '1' ≤ c && c ≤ '9'

/-- Null, false, zero and everything empty count as false. -/
def truth : Value → Bool
  | .null => false
  | .flag b => b
  | .number literal => isNonzero literal
  | .text t => !t.isEmpty
  | .list items => !items.isEmpty
  | .record fields => !fields.isEmpty

def truth? (v : Value) (name : String) : Option Bool := (v.field? name).map truth

def skipBlanks (t : Text) : Text := t.dropWhile fun c => c = ' ' || c = '\n' || c = '\r' || c = '\t'

def hexValue (c : Char) : Option Nat :=
  if '0' ≤ c && c ≤ '9' then some (c.toNat - 48)
  else if 'a' ≤ c && c ≤ 'f' then some (c.toNat - 87)
  else if 'A' ≤ c && c ≤ 'F' then some (c.toNat - 55)
  else none

def hexNumber (digits : List Char) : Option Nat :=
  digits.foldl (fun n c => do return 16 * (← n) + (← hexValue c)) (some 0)

def unescape (c : Char) : Option Nat :=
  if c = '\x22' || c = '\\' || c = '/' then some c.toNat
  else if c = 'b' then some 8
  else if c = 't' then some 9
  else if c = 'n' then some 10
  else if c = 'f' then some 12
  else if c = 'r' then some 13
  else none

/-- The numbers of the characters of a quoted text up to the closing quote, and what stands behind
it. -/
def readUnits : Text → Option (List Nat × Text)
  | [] => none
  | '\\' :: 'u' :: a :: b :: c :: d :: r => do
    let unit ← hexNumber [a, b, c, d]
    let rest ← readUnits r
    return (unit :: rest.1, rest.2)
  | '\\' :: c :: r => do
    let unit ← unescape c
    let rest ← readUnits r
    return (unit :: rest.1, rest.2)
  | c :: r =>
    if c = '\x22' then some ([], r)
    else do
      let rest ← readUnits r
      return (c.toNat :: rest.1, rest.2)

/-- Numbers as characters; two halves of a pair are one character. -/
def ofUnits : List Nat → Text
  | [] => []
  | [n] => [Char.ofNat n]
  | n :: m :: r =>
    if 0xd800 ≤ n && n < 0xdc00 && 0xdc00 ≤ m && m < 0xe000 then
      Char.ofNat (0x10000 + (n - 0xd800) * 0x400 + (m - 0xdc00)) :: ofUnits r
    else Char.ofNat n :: ofUnits (m :: r)

def readText (t : Text) : Option (Text × Text) :=
  (readUnits t).map fun (units, r) => (ofUnits units, r)

def behind? : Text → Text → Option Text
  | [], t => some t
  | _ :: _, [] => none
  | a :: s, b :: t => if a = b then behind? s t else none

def isNumberChar (c : Char) : Bool :=
  c.isDigit || c = '-' || c = '+' || c = '.' || c = 'e' || c = 'E'

def readScalar (t : Text) : Option (Value × Text) :=
  match behind? "null".toList t, behind? "true".toList t, behind? "false".toList t with
  | some r, _, _ => some (.null, r)
  | _, some r, _ => some (.flag true, r)
  | _, _, some r => some (.flag false, r)
  | none, none, none =>
    match t.takeWhile isNumberChar with
    | [] => none
    | literal => some (.number literal, t.dropWhile isNumberChar)

mutual

/-- A value at the start of a text, and what stands behind it; `fuel` bounds the length of the text.
-/
def readValue : Nat → Text → Option (Value × Text)
  | 0, _ => none
  | fuel + 1, t =>
    match skipBlanks t with
    | [] => none
    | c :: r =>
      if c = '\x22' then (readText r).map fun (s, r) => (.text s, r)
      else if c = '[' then
        match skipBlanks r with
        | ']' :: r => some (.list [], r)
        | r => (readItems fuel r).map fun (vs, r) => (.list vs, r)
      else if c = '\x7b' then
        match skipBlanks r with
        | '\x7d' :: r => some (.record [], r)
        | r => (readFields fuel r).map fun (fs, r) => (.record fs, r)
      else readScalar (c :: r)

def readItems : Nat → Text → Option (List Value × Text)
  | 0, _ => none
  | fuel + 1, t => do
    let (v, r) ← readValue fuel t
    match skipBlanks r with
    | ']' :: r => return ([v], r)
    | ',' :: r =>
      let (vs, r) ← readItems fuel r
      return (v :: vs, r)
    | _ => none

def readFields : Nat → Text → Option (List (Text × Value) × Text)
  | 0, _ => none
  | fuel + 1, t => do
    let (name, r) ← readText (← behind? ['\x22'] (skipBlanks t))
    let (v, r) ← readValue fuel (← behind? [':'] (skipBlanks r))
    match skipBlanks r with
    | '\x7d' :: r => return ([(name, v)], r)
    | ',' :: r =>
      let (fs, r) ← readFields fuel r
      return ((name, v) :: fs, r)
    | _ => none

end

def parse (t : Text) : Option Value :=
  match readValue (t.length + 1) t with
  | some (v, r) => if skipBlanks r = [] then some v else none
  | none => none

end Value

end ClassDiagram.Exchange
