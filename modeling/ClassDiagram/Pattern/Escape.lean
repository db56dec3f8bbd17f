import ClassDiagram.Pattern.Basic
import ClassDiagram.Pattern.Source
import ClassDiagram.Text.CharName.Lookup

/-!
# Escapes and sets in written patterns

A backslash and the character behind it stand for a character, a class of characters, a test or a
remembered piece. A set is written between brackets.
-/
namespace ClassDiagram.Pattern
open Text

inductive Escaped where
  | code (n : Nat)
  | ofClass (kind : CharClass) (inside : Bool)
  | wordEdge
  | noWordEdge
  | textStart
  | textEnd
  | reference (number : Nat)
  deriving DecidableEq, Repr

def classOf? (c : Char) : Option Escaped :=
  match c with
  | 'd' => some (.ofClass .decimal true)
  | 'D' => some (.ofClass .decimal false)
  | 's' => some (.ofClass .blank true)
  | 'S' => some (.ofClass .blank false)
  | 'w' => some (.ofClass .word true)
  | 'W' => some (.ofClass .word false)
  | _ => none

def testOf? (c : Char) : Option Escaped :=
  match c with
  | 'A' => some .textStart
  | 'b' => some .wordEdge
  | 'B' => some .noWordEdge
  | 'Z' => some .textEnd
  | _ => none

def controlOf? (c : Char) : Option Escaped :=
  match c with
  | 'a' => some (.code 7)
  | 'f' => some (.code 12)
  | 'n' => some (.code 10)
  | 'r' => some (.code 13)
  | 't' => some (.code 9)
  | 'v' => some (.code 11)
  | '\\' => some (.code 92)
  | _ => none

def digitsOf? (c : Char) : Option Nat :=
  match c with
  | 'x' => some 2
  | 'u' => some 4
  | 'U' => some 8
  | _ => none

/-- A character by its hexadecimal number; `s` is what comes behind the letter. -/
def hexEscape (s : Source) (letter : Char) (digits : Nat) : Except Fault (Escaped × Source) :=
  let start := s.position - 2
  let (found, s') := s.takeWhile digits isHexDigit
  let sign := '\\' :: letter :: found
  if found.length ≠ digits then .error ((Cause.shortEscape sign).at start)
  else if numberIn 16 found > 0x10ffff then .error ((Cause.badEscape sign).at start)
  else .ok (.code (numberIn 16 found), s')

def namedEscape (s : Source) : Except Fault (Escaped × Source) :=
  match s.eat? '\x7b' with
  | none => .error (Cause.noBrace.at s.position)
  | some s' => do
    let (name, s') ← s'.name '\x7d' "character name".toList
    match charNamed? name with
    | some n => return (.code n, s')
    | none => .error ((Cause.unknownCharacter name).at (s.position - 2))

/-- A character by an octal number, of which the first digit is read and up to two more follow. -/
def octalEscape (s : Source) (first : Char) : Except Fault (Escaped × Source) :=
  let (more, s') := s.takeWhile 2 isOctalDigit
  let n := numberIn 8 (first :: more)
  if n > 0o377 then .error ((Cause.octalEscape ('\\' :: first :: more)).at (s.position - 2))
  else .ok (.code n, s')

def plainEscape (s : Source) (c : Char) : Except Fault (Escaped × Source) :=
  if c.isAlphanum then .error ((Cause.badEscape ['\\', c]).at (s.position - 2))
  else .ok (.code c.toNat, s)

def setEscape (s : Source) (c : Char) : Except Fault (Escaped × Source) :=
  if c = 'b' then .ok (.code 8, s)
  else
    match (controlOf? c).orElse fun _ => classOf? c with
    | some e => .ok (e, s)
    | none =>
      match digitsOf? c with
      | some digits => hexEscape s c digits
      | none =>
        if c = 'N' then namedEscape s
        else if isOctalDigit c then octalEscape s c
        else plainEscape s c

/-- The digits of a reference or of an octal number with three digits, of which the first is
read. -/
def numberEscape (s : Source) (first : Char) : Except Fault (Escaped × Source) :=
  let (second, s') := s.takeWhile 1 Char.isDigit
  let (third, s'') := s'.takeWhile 1 isOctalDigit
  if isOctalDigit first && second.any isOctalDigit && third ≠ [] then
    let digits := first :: second ++ third
    if numberIn 8 digits > 0o377 then
      .error ((Cause.octalEscape ('\\' :: digits)).at (s.position - 2))
    else .ok (.code (numberIn 8 digits), s'')
  else .ok (.reference (numberOf (first :: second)), s')

def escape (s : Source) (c : Char) : Except Fault (Escaped × Source) :=
  match ((testOf? c).orElse fun _ => classOf? c).orElse fun _ => controlOf? c with
  | some e => .ok (e, s)
  | none =>
    match digitsOf? c with
    | some digits => hexEscape s c digits
    | none =>
      if c = 'N' then namedEscape s
      else if c = '0' then octalEscape s c
      else if c.isDigit then numberEscape s c
      else plainEscape s c

def setSign (s : Source) : Except Fault (Escaped × Source) :=
  match s.sign with
  | ['\\', c] => setEscape s.tail c
  | [c] => .ok (.code c.toNat, s.tail)
  | _ => .ok (.code 0, s.tail)

def Escaped.member (ascii : Bool) : Escaped → Member
  | .code n => .code n
  | .ofClass kind inside => .ofClass kind ascii inside
  | _ => .span 1 0

/-- The members of a set up to its closing bracket; `opened` is the position of the opening one,
`members` are those read so far and `fuel` bounds the number of signs. -/
def setMembers (ascii : Bool) (opened : Nat) :
    Nat → List Member → Source → Except Fault (List Member × Source)
  | 0, _, _ => .error (Cause.openSet.at opened)
  | fuel + 1, members, s =>
    if s.sign = [] then .error (Cause.openSet.at opened)
    else if s.sign = [']'] && members ≠ [] then .ok (members, s.tail)
    else do
      let (first, s₁) ← setSign s
      match s₁.eat? '-' with
      | none => setMembers ascii opened fuel (members ++ [first.member ascii]) s₁
      | some s₂ =>
        if s₂.sign = [] then .error (Cause.openSet.at opened)
        else if s₂.sign = [']'] then
          .ok (members ++ [first.member ascii, .code 45], s₂.tail)
        else
          let (last, s₃) ← setSign s₂
          let bad := (Cause.badSpan s.sign s₂.sign).at
            (s₃.position - (s.sign.length + 1 + s₂.sign.length))
          match first, last with
          | .code lo, .code hi =>
            if hi < lo then .error bad
            else setMembers ascii opened fuel (members ++ [.span lo hi]) s₃
          | _, _ => .error bad

/-- A set: whether it is negated, its members without repetition, and what comes behind it; `s` is
what comes behind its opening bracket. -/
def readSet (ascii : Bool) (s : Source) : Except Fault (Bool × List Member × Source) := do
  let negated := s.eat? '^'
  let (members, s') ←
    setMembers ascii (s.position - 1) (s.rest.length + 1) [] (negated.getD s)
  return (negated.isSome, members.eraseDups, s')

end ClassDiagram.Pattern
