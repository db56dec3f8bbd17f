import ClassDiagram.Pattern.Fault
import ClassDiagram.Text.Blank
import ClassDiagram.Text.Name

/-!
# The signs of a written pattern

A written pattern is read sign by sign. A sign is one character, or a backslash with the character
behind it.
-/
namespace ClassDiagram.Pattern
open Text

structure Source where
  rest : Text
  position : Nat
  deriving DecidableEq, Repr

namespace Source

def sign (s : Source) : Text :=
  match s.rest with
  | [] => []
  | '\\' :: c :: _ => ['\\', c]
  | c :: _ => [c]

def drop (s : Source) (n : Nat) : Source := ⟨s.rest.drop n, s.position + n⟩

def tail (s : Source) : Source := s.drop s.sign.length

def eat? (s : Source) (c : Char) : Option Source := if s.sign = [c] then some s.tail else none

def takeWhile (s : Source) (n : Nat) (kind : Char → Bool) : Text × Source :=
  let t := (s.rest.take n).takeWhile kind
  (t, s.drop t.length)

/-- Everything up to a closing sign, which has to come, and what comes behind the sign; `fuel`
bounds the number of signs and `name` is what has been read so far. -/
def upTo (closing : Char) (what : Text) : Nat → Text → Source → Except Fault (Text × Source)
  | 0, _, s => .error ((Cause.missingName what).at s.position)
  | fuel + 1, name, s =>
    match s.sign with
    | [] =>
      .error (if name.isEmpty then (Cause.missingName what).at s.position
        else (Cause.openName closing).at (s.position - name.length))
    | sign =>
      if sign = [closing] then
        if name.isEmpty then .error ((Cause.missingName what).at s.position)
        else .ok (name, s.tail)
      else upTo closing what fuel (name ++ sign) s.tail

def name (s : Source) (closing : Char) (what : Text) : Except Fault (Text × Source) :=
  upTo closing what (s.rest.length + 1) [] s

end Source

def numberOf (digits : Text) : Nat := digits.foldl (fun n c => 10 * n + (c.toNat - 48)) 0

/-- The value of a decimal digit of any script: the digits of a script follow each other. -/
def decimalValue (c : Char) : Nat :=
  if c.toNat < 128 then c.toNat - 48
  else
    match decimalRanges.find? fun r => r.1 ≤ c.toNat && c.toNat ≤ r.2 with
    | some (first, _) => (c.toNat - first) % 10
    | none => 0

/-- The number that a text stands for: decimal digits of any script, with single underscores between
them, perhaps with a plus sign in front and blanks around. A minus sign makes zero only. -/
def natural? (t : Text) : Option Nat :=
  let t := t.trim
  let (negative, digits) :=
    match t with
    | '+' :: r => (false, r)
    | '-' :: r => (true, r)
    | _ => (false, t)
  let parts := splitAtChar '_' digits
  let n := parts.flatten.foldl (fun n c => 10 * n + decimalValue c) 0
  if parts.all (fun p => p ≠ [] && p.all isDecimal) && parts.flatten.length ≤ digitLimit
      && !(negative && n ≠ 0) then
    some n
  else none

def hexValue (c : Char) : Nat :=
  if c.isDigit then c.toNat - 48 else if c.isUpper then c.toNat - 55 else c.toNat - 87

def numberIn (base : Nat) (digits : Text) : Nat :=
  digits.foldl (fun n c => base * n + hexValue c) 0

def isHexDigit (c : Char) : Bool :=
  c.isDigit || ('a' ≤ c && c ≤ 'f') || ('A' ≤ c && c ≤ 'F')

def isOctalDigit (c : Char) : Bool := '0' ≤ c && c ≤ '7'

end ClassDiagram.Pattern
