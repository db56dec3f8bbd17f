import ClassDiagram.Pattern.Escape
import ClassDiagram.Pattern.Search

/-!
# Reading patterns

`Pattern.ofText` reads a written pattern. The reader goes through the text sign by sign and keeps
the groups that are open, each with its finished alternatives and the items of the current one. A
text that is no pattern is refused with the position of the sign in question.

A name is looked for as a whole word: the pattern is a word edge, the name, and a word edge. The
name itself is read as a pattern, so signs such as `*` or `(` in it have their special meaning, and
an alternative `|` separates the two edges.
-/
namespace ClassDiagram.Pattern
open Text

structure Flags where
  anyCase : Bool := false
  /-- The tests of the start and the end of a text also hold at those of a line. -/
  multiline : Bool := false
  dotAll : Bool := false
  verbose : Bool := false
  ascii : Bool := false
  deriving DecidableEq, Repr

def Flags.letters (f : Flags) : Letters := if f.anyCase then .anyCase f.ascii else .exact

def Flags.change (f : Flags) (on off : Text) : Flags where
  anyCase := (f.anyCase || on.contains 'i') && !off.contains 'i'
  multiline := (f.multiline || on.contains 'm') && !off.contains 'm'
  dotAll := (f.dotAll || on.contains 's') && !off.contains 's'
  verbose := (f.verbose || on.contains 'x') && !off.contains 'x'
  ascii := (f.ascii || on.contains 'a') && !on.contains 'u'

/-- The kinds of items that the reader tells apart: only a test and a repeat cannot be repeated, and
only characters, tests and references are compared with each other. -/
inductive ItemKind where
  | chars (negated : Bool) (members : List Member)
  | test
  | reference
  | repeated
  | whole
  deriving DecidableEq, Repr

structure Item where
  pattern : Pattern
  kind : ItemKind
  deriving DecidableEq, Repr

/-- What stands in a sequence under construction: an item, or a group without a number of its own,
whose items become part of the sequence once that is complete. -/
inductive Entry where
  | item (i : Item)
  | block (is : List Item)
  deriving DecidableEq, Repr

def Entry.items : Entry → List Item
  | .item i => [i]
  | .block is => is

def Item.sequence : List Item → Pattern
  | [] => .empty
  | [i] => i.pattern
  | i :: r => .seq i.pattern (Item.sequence r)

def Item.ofChars (flags : Flags) (negated : Bool) (members : List Member) : Item :=
  let pattern : Pattern :=
    match members with
    | [.code n] =>
      let set := CharSet.single negated n flags.letters
      if set.letters = .exact && !negated && n.isValidChar then .char (Char.ofNat n) else .oneOf set
    | _ => .oneOf (.make negated members flags.letters)
  ⟨pattern, .chars negated members⟩

/-- Whether two items say the same; this is only asked of single signs. -/
def Item.same (i j : Item) : Bool :=
  match i.kind with
  | .repeated => false
  | .whole => false
  | _ => i = j

/-- The items that several alternatives have in common at their start, and what is left of the
alternatives. -/
def Item.factor : List Item → List (List Item) → List Item × List (List Item)
  | [], others => ([], [] :: others)
  | i :: r, others =>
    if others.all fun alternative => alternative.head?.any i.same then
      let (common, rest) := Item.factor r (others.map List.tail)
      (i :: common, rest)
    else ([], (i :: r) :: others)

def Item.union? (alternatives : List (List Item)) : Option (List Member) :=
  (alternatives.mapM fun (is : List Item) =>
    match is with
    | [⟨_, .chars false members⟩] => some members
    | _ => none).map fun (ms : List (List Member)) => ms.flatten.eraseDups

def Item.choice : List (List Item) → Pattern
  | [] => .empty
  | [is] => Item.sequence is
  | is :: r => .alt (Item.sequence is) (Item.choice r)

/-- Alternatives as one sequence: what they start with in common is drawn out, and single characters
form a set. -/
def Item.join (flags : Flags) (alternatives : List (List Item)) : List Item :=
  match alternatives with
  | [] => []
  | [is] => is
  | is :: others =>
    let (common, rest) := Item.factor is others
    match Item.union? rest with
    | some members => common ++ [⟨.oneOf (.make false members flags.letters), .chars false members⟩]
    | none => common ++ [⟨Item.choice rest, .whole⟩]

inductive GroupKind where
  | plain
  | flagged
  | numbered (number : Nat)
  | keep
  | ahead (wanted : Bool)
  | behind (wanted outermost : Bool)
  | given (number : Nat)
  | otherwise (number : Nat) (p : Pattern)
  deriving DecidableEq, Repr

/-- A group under construction: where it was opened, its finished alternatives and the entries of
the current one, both latest first. -/
structure Frame where
  opened : Nat
  kind : GroupKind
  flags : Flags
  alternatives : List (List Item)
  entries : List Entry
  deriving DecidableEq, Repr

namespace Frame

def sequence (f : Frame) : List Item := f.entries.reverse.flatMap Entry.items

def items (f : Frame) : List Item := Item.join f.flags (f.sequence :: f.alternatives).reverse

def push (f : Frame) (p : Pattern) (kind : ItemKind) : Frame :=
  { f with entries := .item ⟨p, kind⟩ :: f.entries }

def next (f : Frame) (position : Nat) : Except Fault Frame :=
  match f.kind with
  | .given number =>
    .ok { f with kind := .otherwise number (Item.sequence f.sequence), entries := [] }
  | .otherwise _ _ => .error (Cause.thirdBranch.at position)
  | _ => .ok { f with alternatives := f.sequence :: f.alternatives, entries := [] }

def repeatLast (f : Frame) (position : Nat) (choice : Choice) (least : Nat) (most : Option Nat) :
    Except Fault Frame :=
  match f.entries with
  | [] => .error (Cause.nothingToRepeat.at position)
  | .item ⟨_, .test⟩ :: _ => .error (Cause.nothingToRepeat.at position)
  | .item ⟨_, .repeated⟩ :: _ => .error (Cause.multipleRepeat.at position)
  | entry :: rest =>
    let p := Pattern.repeated choice least most (Item.sequence entry.items)
    .ok { f with entries := .item ⟨p, .repeated⟩ :: rest }

end Frame

structure Reader where
  source : Source
  number : Nat
  widths : List (Nat × Width)
  names : List (Text × Nat)
  /-- The groups on which a choice depends, with the positions where they are mentioned first. -/
  conditions : List (Nat × Nat)
  /-- Inside a test of what stands in front: the number of the first group in it. -/
  behindFrom : Option Nat
  loose : Bool
  frame : Frame
  outer : List Frame
  deriving DecidableEq, Repr

namespace Reader

def start (flags : Flags) (t : Text) : Reader :=
  ⟨⟨t, 0⟩, 1, [], [], [], none, false, ⟨0, .plain, flags, [], []⟩, []⟩

def push (r : Reader) (s : Source) (p : Pattern) (kind : ItemKind) : Reader :=
  { r with source := s, frame := r.frame.push p kind }

def pushChars (r : Reader) (s : Source) (negated : Bool) (members : List Member) : Reader :=
  let i := Item.ofChars r.frame.flags negated members
  r.push s i.pattern i.kind

def enter (r : Reader) (s : Source) (opened : Nat) (kind : GroupKind) (flags : Flags) : Reader :=
  { r with source := s, frame := ⟨opened, kind, flags, [], []⟩, outer := r.frame :: r.outer }

def enterNumbered (r : Reader) (s : Source) (opened : Nat) : Reader :=
  { r.enter s opened (.numbered r.number) r.frame.flags with number := r.number + 1 }

def isClosed (r : Reader) (number : Nat) : Bool := (r.widths.lookup number).isSome

/-- Inside a test of what stands in front only groups that were closed before it can be referred
to. -/
def checkBehind (r : Reader) (number position : Nat) : Except Fault Unit :=
  match r.behindFrom with
  | none => .ok ()
  | some first =>
    if !r.isClosed number then .error (Cause.openReference.at position)
    else if first ≤ number then .error (Cause.behindReference.at position)
    else .ok ()

def pushReference (r : Reader) (s : Source) (number position : Nat) : Except Fault Reader := do
  if !r.isClosed number then .error (Cause.openReference.at position)
  else
    r.checkBehind number s.position
    return r.push s (.reference number r.frame.flags.letters) .reference

def readEscape (r : Reader) (c : Char) (s : Source) : Except Fault Reader := do
  let flags := r.frame.flags
  let (e, s') ← escape s c
  match e with
  | .code n => return r.pushChars s' false [.code n]
  | .ofClass kind inside => return r.pushChars s' false [.ofClass kind flags.ascii inside]
  | .wordEdge => return r.push s' (.test (.wordEdge flags.ascii)) .test
  | .noWordEdge => return r.push s' (.test (.noWordEdge flags.ascii)) .test
  | .textStart => return r.push s' (.test .textStart) .test
  | .textEnd => return r.push s' (.test .textEnd) .test
  | .reference number =>
    if number < r.number then r.pushReference s' number (s.position - 2)
    else .error ((Cause.unknownGroup number).at (s.position - 1))

/-- The least number of turns that is too large to write. -/
def turnLimit : Nat := 4294967295

def turnsOf (digits : Text) : Except Fault (Option Nat) :=
  if digits.isEmpty then .ok none
  else if digitLimit < digits.length then .error ⟨.repeatDigits digits.length, none, none⟩
  else if numberOf digits < turnLimit then .ok (some (numberOf digits))
  else .error ⟨.repeatNumber, none, none⟩

/-- The bounds between braces; `s` is what comes behind the opening brace. There are none if the
brace stands for itself. -/
def readBounds (s : Source) : Except Fault (Option (Nat × Option Nat × Source)) :=
  let (lo, s₁) := s.takeWhile s.rest.length Char.isDigit
  let (hi, s₂) :=
    match s₁.eat? ',' with
    | none => (lo, s₁)
    | some s' => s'.takeWhile s'.rest.length Char.isDigit
  match s₂.eat? '\x7d' with
  | none => .ok none
  | some s₃ =>
    if s.sign = ['\x7d'] then .ok none
    else do
      let least ← turnsOf lo
      let most ← turnsOf hi
      if most.any (· < least.getD 0) then .error (Cause.repeatOrder.at s.position)
      else return some (least.getD 0, most, s₃)

def readChoice (r : Reader) (position least : Nat) (most : Option Nat) (s : Source) :
    Except Fault Reader := do
  let (choice, s') :=
    match s.eat? '?', s.eat? '+' with
    | some s', _ => (Choice.least, s')
    | none, some s' => (Choice.keep, s')
    | none, none => (Choice.most, s)
  return { r with source := s', frame := ← r.frame.repeatLast position choice least most }

def isFlag (c : Char) : Bool := "iLmsxatu".toList.contains c

def isTextFlag (c : Char) : Bool := c = 'a' || c = 'u' || c = 'L'

/-- What a character is blamed for that is no flag: a letter for being unknown, anything else for
the cause given. -/
def noFlag (c : Char) (cause : Cause) : Cause := if isLetter c then .unknownFlag else cause

def flagsOn : Nat → Text → Char → Source → Except Fault (Text × Char × Source)
  | 0, _, _, s => .error (Cause.openFlagsOn.at s.position)
  | fuel + 1, on, c, s =>
    if c = 'L' then .error (Cause.localeFlag.at s.position)
    else if isTextFlag c && on.any fun x => isTextFlag x && x ≠ c then
      .error (Cause.mixedFlags.at s.position)
    else
      match s.sign with
      | [x] =>
        if x = ')' || x = '-' || x = ':' then .ok (c :: on, x, s.tail)
        else if isFlag x then flagsOn fuel (c :: on) x s.tail
        else .error ((noFlag x .openFlagsOn).at s.position)
      | _ => .error (Cause.openFlagsOn.at s.position)

def flagsOff : Nat → Text → Char → Source → Except Fault (Text × Source)
  | 0, _, _, s => .error (Cause.openFlagsOff.at s.position)
  | fuel + 1, off, c, s =>
    if isTextFlag c then .error (Cause.fixedFlag.at s.position)
    else
      match s.sign with
      | [x] =>
        if x = ':' then .ok (c :: off, s.tail)
        else if isFlag x then flagsOff fuel (c :: off) x s.tail
        else .error ((noFlag x .openFlagsOff).at s.position)
      | _ => .error (Cause.openFlagsOff.at s.position)

/-- Goes on inside a group with flags, of which `c` is the first sign and `s` comes behind it. Flags
for the whole pattern would have to stand at its start. -/
def readFlags (r : Reader) (opened : Nat) (c : Char) (s : Source) : Except Fault Reader := do
  let (on, closing, s₁) ← if c = '-' then .ok ([], c, s) else flagsOn (s.rest.length + 1) [] c s
  if closing = ')' then .error (Cause.lateFlags.at opened)
  else if on.contains 't' then .error ((Cause.wholeFlag true).at (s₁.position - 1))
  else
    let (off, s₂) ←
      if closing = ':' then .ok ([], s₁)
      else
        match s₁.sign with
        | [x] =>
          if isFlag x then flagsOff (s₁.rest.length + 1) [] x s₁.tail
          else .error ((noFlag x .missingFlag).at s₁.position)
        | _ => .error (Cause.missingFlag.at s₁.position)
    if off.contains 't' then .error ((Cause.wholeFlag false).at (s₂.position - 1))
    else if on.any off.contains then .error (Cause.flagTwice.at (s₂.position - 1))
    else return r.enter s₂ opened .flagged (r.frame.flags.change on off)

def readNamed (r : Reader) (opened : Nat) (s : Source) : Except Fault Reader := do
  let (name, s') ← s.name '>' "group name".toList
  if !isName name then .error ((Cause.badName name).at s.position)
  else
    match r.names.lookup name with
    | some earlier => .error ((Cause.takenName name r.number earlier).at s.position)
    | none => return { r.enterNumbered s' opened with names := (name, r.number) :: r.names }

def readReference (r : Reader) (s : Source) : Except Fault Reader := do
  let (name, s') ← s.name ')' "group name".toList
  if !isName name then .error ((Cause.badName name).at s.position)
  else
    match r.names.lookup name with
    | none => .error ((Cause.unknownName name).at s.position)
    | some number => r.pushReference s' number s.position

def groupLimit : Nat := 1073741823

def conditionOf (r : Reader) (name : Text) (position : Nat) : Except Fault Nat :=
  if isName name then
    match r.names.lookup name with
    | none => .error ((Cause.unknownName name).at position)
    | some number => .ok number
  else
    match natural? name with
    | none => .error ((Cause.badName name).at position)
    | some number =>
      if number = 0 then .error (Cause.badNumber.at position)
      else if groupLimit ≤ number then .error ((Cause.unknownGroup number).at position)
      else .ok number

def readCondition (r : Reader) (opened : Nat) (s : Source) : Except Fault Reader := do
  let (name, s') ← s.name ')' "group name".toList
  let number ← r.conditionOf name s.position
  r.checkBehind number s'.position
  let conditions :=
    if isName name || (r.conditions.lookup number).isSome then r.conditions
    else r.conditions ++ [(number, s.position)]
  return { r.enter s' opened (.given number) r.frame.flags with conditions := conditions }

def skipComment (opened : Nat) : Nat → Source → Except Fault Source
  | 0, _ => .error (Cause.openComment.at opened)
  | fuel + 1, s =>
    match s.sign with
    | [] => .error (Cause.openComment.at opened)
    | [')'] => .ok s.tail
    | _ => skipComment opened fuel s.tail

/-- Goes on inside a group that opens with a question mark and the sign `c` in front of `s`. -/
def readOpening (r : Reader) (opened : Nat) (c : Char) (s : Source) : Except Fault Reader := do
  let flags := r.frame.flags
  match c with
  | 'P' =>
    match s.sign with
    | [] => .error (Cause.unexpectedEnd.at s.position)
    | ['<'] => r.readNamed opened s.tail
    | ['='] => r.readReference s.tail
    | sign => .error ((Cause.unknownOpening ('P' :: sign)).at (s.position - 2))
  | ':' => return r.enter s opened .plain flags
  | '#' => return { r with source := ← skipComment opened (s.rest.length + 1) s }
  | '=' => return r.enter s opened (.ahead true) flags
  | '!' => return r.enter s opened (.ahead false) flags
  | '<' =>
    let inside (wanted : Bool) : Reader :=
      { r.enter s.tail opened (.behind wanted r.behindFrom.isNone) flags with
        behindFrom := some (r.behindFrom.getD r.number) }
    match s.sign with
    | [] => .error (Cause.unexpectedEnd.at s.position)
    | ['='] => return inside true
    | ['!'] => return inside false
    | sign => .error ((Cause.unknownOpening ('<' :: sign)).at (s.position - 2))
  | '(' => r.readCondition opened s
  | '>' => return r.enter s opened .keep flags
  | _ =>
    if isFlag c || c = '-' then r.readFlags opened c s
    else .error ((Cause.unknownOpening [c]).at (s.position - 2))

def readGroup (r : Reader) (s : Source) : Except Fault Reader :=
  let opened := s.position - 1
  match s.eat? '?' with
  | none => .ok (r.enterNumbered s opened)
  | some s' =>
    match s'.sign with
    | [] => .error (Cause.unexpectedEnd.at s'.position)
    | [c] => r.readOpening opened c s'.tail
    | sign => .error ((Cause.unknownOpening sign).at (s'.position - 1))

def close (r : Reader) (s : Source) : Except Fault Reader :=
  match r.outer with
  | [] => .error (Cause.unopenedGroup.at r.source.position)
  | frame :: outer =>
    let p := Item.sequence r.frame.items
    let width := p.width r.widths
    let r' := { r with frame := frame, outer := outer }
    match r.frame.kind with
    | .plain =>
      let entries := .block r.frame.items :: frame.entries
      .ok { r' with source := s, frame := { frame with entries := entries } }
    | .flagged => .ok (r'.push s p .whole)
    | .numbered number =>
      .ok { r'.push s (.group number p) .whole with widths := (number, width) :: r.widths }
    | .keep => .ok (r'.push s (.keep p) .whole)
    | .ahead wanted => .ok (r'.push s (.ahead wanted p) .whole)
    | .behind wanted outermost =>
      .ok { r'.push s (.behind wanted width.least p) .whole with
        behindFrom := if outermost then none else r.behindFrom
        loose := r.loose || width.least ≠ width.most }
    | .given number => .ok (r'.push s (.given number p .empty) .whole)
    | .otherwise number yes => .ok (r'.push s (.given number yes p) .whole)

def skipLine : Nat → Source → Source
  | 0, s => s
  | fuel + 1, s =>
    if s.sign = [] then s
    else if s.sign = ['\n'] then s.tail
    else skipLine fuel s.tail

def readChar (r : Reader) (c : Char) (s : Source) : Except Fault Reader := do
  let flags := r.frame.flags
  match c with
  | '|' => return { r with source := s, frame := ← r.frame.next r.source.position }
  | ')' => r.close s
  | '[' =>
    let (negated, members, s') ← readSet flags.ascii s
    return r.pushChars s' negated members
  | '?' => r.readChoice r.source.position 0 (some 1) s
  | '*' => r.readChoice r.source.position 0 none s
  | '+' => r.readChoice r.source.position 1 none s
  | '\x7b' =>
    match ← readBounds s with
    | none => return r.pushChars s false [.code c.toNat]
    | some (least, most, s') => r.readChoice r.source.position least most s'
  | '.' =>
    let set := if flags.dotAll then CharSet.all else CharSet.notLineFeed
    return r.push s (.oneOf set) (.chars true set.members)
  | '(' => r.readGroup s
  | '^' => return r.push s (.test (if flags.multiline then .lineStart else .textStart)) .test
  | '$' => return r.push s (.test (if flags.multiline then .lineEnd else .lastLineEnd)) .test
  | _ =>
    if flags.verbose && CharClass.blank.has true c then return { r with source := s }
    else if flags.verbose && c = '#' then
      return { r with source := skipLine s.rest.length s }
    else return r.pushChars s false [.code c.toNat]

def step (r : Reader) : Except Fault Reader :=
  match r.source.sign with
  | [] => .ok r
  | [c] =>
    if c = '\\' then .error (Cause.finalBackslash.at r.source.position)
    else r.readChar c r.source.tail
  | _ :: c :: _ => r.readEscape c r.source.tail

def finish (r : Reader) : Except Fault Pattern :=
  if r.outer ≠ [] then .error (Cause.openGroup.at r.frame.opened)
  else
    match r.conditions.find? fun x => r.number ≤ x.1 with
    | some (number, position) => .error ((Cause.unknownGroup number).at position)
    | none =>
      if r.loose then .error ⟨.looseBehind, none, none⟩
      else .ok (Item.sequence r.frame.items)

/-- Reads to the end of the text; `fuel` bounds the number of signs. -/
def run : Nat → Reader → Except Fault Pattern
  | 0, r => r.finish
  | fuel + 1, r => if r.source.sign = [] then r.finish else do run fuel (← r.step)

end Reader

def ofText (flags : Flags) (t : Text) : Except Fault Pattern :=
  ((Reader.start flags t).run t.length).mapError (·.inText t)

def ofName (name : Text) : Except Fault Pattern := ofText {} ("\\b".toList ++ name ++ "\\b".toList)

/-- The leftmost match of a pattern in a text; a piece that ends before it starts is refused. -/
def search (p : Pattern) (t : Text) : Except Fault (Option Match) :=
  match p.find? t with
  | none => .ok none
  | some m => if m.isSound then .ok (some m) else .error ⟨.crossedPiece, none, none⟩

def occurrence (name t : Text) : Except Fault (Option Nat) := do
  return (← (← ofName name).search t).map (·.start)

end ClassDiagram.Pattern
