import ClassDiagram.Pattern.Basic

/-!
# Searching for patterns

`Pattern.run` is a backtracking search: it takes what is to follow the match as an argument and
tries the possibilities of the pattern in their order until one lets that succeed. `Pattern.find?`
gives the leftmost match in a text.

The ends of the remembered pieces are noted one by one as the search meets them. Only where several
possibilities are tried, the notes of a possibility that came to nothing are taken back: inside a
repeat all of them, elsewhere those of pieces that had no notes before.

A repeat never takes up an optional turn where its last optional turn began, so that every search
ends.
-/
namespace ClassDiagram.Pattern
open Text

/-- A place in a text: what stands in front, last character first, what stands behind, and how many
characters are in front. -/
structure Place where
  before : Text
  after : Text
  index : Nat
  deriving DecidableEq, Repr

namespace Place

def previous : Place → Place
  | ⟨x :: before, after, index⟩ => ⟨before, x :: after, index - 1⟩
  | c => c

def back (c : Place) (n : Nat) : Place :=
  ⟨c.before.drop n, (c.before.take n).reverse ++ c.after, c.index - n⟩

end Place

/-- What a search has noted: where the remembered pieces start and end. The marks of piece `n` stand
at `2 * n - 2` and `2 * n - 1`. -/
structure Notes where
  marks : List (Option Nat)
  deriving DecidableEq, Repr

namespace Notes

def mark (m : Notes) (i position : Nat) : Notes :=
  let marks := m.marks ++ List.replicate (i + 1 - m.marks.length) none
  ⟨marks.set i (some position)⟩

/-- Takes notes back to what they were: inside a repeat all marks, elsewhere those in addition. -/
def restore (now earlier : Notes) (looping : Bool) : Notes :=
  if looping then earlier else ⟨now.marks.take earlier.marks.length⟩

def piece? (m : Notes) (number : Nat) : Option (Nat × Nat) :=
  match m.marks[2 * number - 2]?, m.marks[2 * number - 1]? with
  | some (some start), some (some stop) => some (start, stop)
  | _, _ => none

def text? (m : Notes) (t : Text) (number : Nat) : Option Text :=
  match m.piece? number with
  | some (start, stop) => if start ≤ stop then some ((t.drop start).take (stop - start)) else none
  | none => none

end Notes

inductive Outcome where
  | hit (c : Place) (m : Notes)
  | miss (m : Notes)
  deriving DecidableEq, Repr

abbrev Goal := Place → Notes → Outcome

def Outcome.orElse : Outcome → (Notes → Outcome) → Outcome
  | .hit c m, _ => .hit c m
  | .miss m, next => next m

def step (test : Char → Bool) (c : Place) (m : Notes) (goal : Goal) : Outcome :=
  match c.after with
  | [] => .miss m
  | x :: r => if test x then goal ⟨x :: c.before, r, c.index + 1⟩ m else .miss m

def steps (letters : Letters) : Text → Place → Notes → Goal → Outcome
  | [], c, m, goal => goal c m
  | x :: r, c, m, goal =>
    step (fun y => letters.fold y.toNat = letters.fold x.toNat) c m fun d m =>
      steps letters r d m goal

def charTest? : Pattern → Option (Char → Bool)
  | .char x => some (· = x)
  | .oneOf s => some s.has
  | _ => none

/-- The character with which a pattern starts, if it starts with one; `next` is that of what
follows. -/
def firstChar? (next : Option Char) : Pattern → Option Char
  | .empty => next
  | .char x => some x
  | .seq p q => p.firstChar? (q.firstChar? next)
  | _ => none

def refuses (after : Text) : Pattern → Bool
  | .char x => after.head? ≠ some x
  | .oneOf s => s.isPlain && !after.head?.any s.has
  | .seq p _ => p.refuses after
  | _ => false

/-- Goes past the characters in a row that pass a test, up to `most` of them: how many they are, and
the place behind them. `count` have been passed, and `before` stands in front of the rest. -/
def passRow (test : Char → Bool) (most : Option Nat) (before : Text) (index count : Nat) :
    Text → Nat × Place
  | [] => (count, ⟨before, [], index⟩)
  | x :: r =>
    if most ≠ some count && test x then passRow test most (x :: before) (index + 1) (count + 1) r
    else (count, ⟨before, x :: r, index⟩)

/-- Goes on from a place, or from one of the `n` places in front of it, nearest first. If the goal
starts with the character `next`, only places in front of it are tried. -/
def giveBack (looping : Bool) (next : Option Char) (start : Notes) (goal : Goal) :
    Nat → Place → Notes → Outcome
  | n, c, m =>
    let tried :=
      if next.any fun x => c.after.head? ≠ some x then .miss m
      else (goal c m).orElse fun m => .miss (m.restore start looping)
    match tried, n with
    | .hit d m, _ => .hit d m
    | .miss m, 0 => .miss m
    | .miss m, n + 1 => giveBack looping next start goal n c.previous m

def takeMore (looping : Bool) (test : Char → Bool) (start : Notes) (goal : Goal) :
    Nat → Option Nat → Place → Notes → Outcome
  | 0, _, _, m => .miss m
  | fuel + 1, most, c, m =>
    (goal c m).orElse fun m =>
      let m := m.restore start looping
      if most = some 0 then .miss m
      else step test c m (takeMore looping test start goal fuel (most.map (· - 1)))

/-- Repeats a test of characters at least `least` and at most `most` times. If it can give back, and
the goal starts with a character that does not come any more, nothing is tried. -/
def repeatTest (choice : Choice) (looping : Bool) (next : Option Char) (test : Char → Bool)
    (least : Nat) (most : Option Nat) (c : Place) (m : Notes) (goal : Goal) : Outcome :=
  if choice = .most && next.any fun x => !c.after.contains x then .miss m
  else
    let bound := if choice = .least then some least else most
    let (n, d) := passRow test bound c.before c.index 0 c.after
    if n < least then .miss m
    else
      match choice with
      | .most => giveBack looping next m goal (n - least) d m
      | .least => takeMore looping test m goal (d.after.length + 1) (most.map (· - least)) d m
      | .keep => goal d m

/-- Repeats a body as often as possible, at least `least` and at most `most` times. `count` turns
have been made, and the last one that was optional began at `last`; `fuel` bounds the number of
further turns. -/
def turnsMost (least : Nat) (most : Option Nat) (body : Place → Notes → Goal → Outcome)
    (goal : Goal) : Nat → Nat → Option Nat → Goal
  | 0, _, _, _, m => .miss m
  | fuel + 1, count, last, c, m =>
    if count < least then body c m (turnsMost least most body goal fuel (count + 1) last)
    else if most.all (count < ·) && last ≠ some c.index then
      (body c m (turnsMost least most body goal fuel (count + 1) (some c.index))).orElse fun m' =>
        goal c (m'.restore m true)
    else goal c m

/-- Repeats a body as seldom as possible; the arguments are those of `turnsMost`, and `looping`
tells whether the repeat stands in another one. -/
def turnsLeast (looping : Bool) (least : Nat) (most : Option Nat)
    (body : Place → Notes → Goal → Outcome) (goal : Goal) : Nat → Nat → Option Nat → Goal
  | 0, _, _, _, m => .miss m
  | fuel + 1, count, last, c, m =>
    if count < least then body c m (turnsLeast looping least most body goal fuel (count + 1) last)
    else
      (goal c m).orElse fun m' =>
        let m' := m'.restore m looping
        if most.all (count < ·) && last ≠ some c.index then
          body c m' (turnsLeast looping least most body goal fuel (count + 1) (some c.index))
        else .miss m'

def turnsKeep (least : Nat) (most : Option Nat) (body : Place → Notes → Goal → Outcome)
    (goal : Goal) : Nat → Nat → Option Nat → Goal
  | 0, _, _, _, m => .miss m
  | fuel + 1, count, last, c, m =>
    if count < least then
      match body c m .hit with
      | .hit d m' => turnsKeep least most body goal fuel (count + 1) last d m'
      | .miss m' => .miss m'
    else if most.all (count < ·) && last ≠ some c.index then
      match body c m .hit with
      | .hit d m' => turnsKeep least most body goal fuel (count + 1) (some c.index) d m'
      | .miss m' => goal c (m'.restore m true)
    else goal c m

structure Setting where
  looping : Bool
  next : Option Char
  deriving DecidableEq, Repr

/-- Searches in the text `t` for a match from a place on such that what follows it succeeds. -/
def run (t : Text) (s : Setting) : Pattern → Place → Notes → Goal → Outcome
  | .empty, c, m, goal => goal c m
  | .test x, c, m, goal => if x.holds c.before c.after then goal c m else .miss m
  | .char x, c, m, goal => step (· = x) c m goal
  | .oneOf x, c, m, goal => step x.has c m goal
  | .seq p q, c, m, goal =>
    p.run t { s with next := q.firstChar? s.next } c m fun d m => q.run t s d m goal
  | .alt p q, c, m, goal =>
    let inner : Setting := { s with next := none }
    let first :=
      if p.refuses c.after then .miss m
      else
        (p.run t inner c m goal).orElse fun m' => .miss (m'.restore m s.looping)
    first.orElse fun m₁ =>
      if q.refuses c.after then .miss m₁
      else
        (q.run t inner c m₁ goal).orElse fun m' => .miss (m'.restore m s.looping)
  | .group number p, c, m, goal =>
    p.run t { s with next := none } c (m.mark (2 * number - 2) c.index) fun d m =>
      goal d (m.mark (2 * number - 1) d.index)
  | .reference number letters, c, m, goal =>
    match m.text? t number with
    | none => .miss m
    | some piece => steps letters piece c m goal
  | .repeated choice least most p, c, m, goal =>
    match p.charTest? with
    | some passes => repeatTest choice s.looping s.next passes least most c m goal
    | none =>
      let fuel := least + t.length + 2
      match choice with
      | .most => turnsMost least most (p.run t ⟨true, none⟩) goal fuel 0 none c m
      | .least => turnsLeast s.looping least most (p.run t ⟨true, none⟩) goal fuel 0 none c m
      | .keep => turnsKeep least most (p.run t { s with next := none }) goal fuel 0 none c m
  | .keep p, c, m, goal =>
    match p.run t { s with next := none } c m .hit with
    | .hit d m' => goal d m'
    | .miss m' => .miss m'
  | .ahead wanted p, c, m, goal =>
    match p.run t { s with next := none } c m .hit with
    | .hit _ m' => if wanted then goal c m' else .miss m'
    | .miss m' => if wanted then .miss m' else goal c (m'.restore m s.looping)
  | .behind wanted width p, c, m, goal =>
    if c.index < width then if wanted then .miss m else goal c m
    else
      let b := c.back width
      match p.run t { s with next := none } b m .hit with
      | .hit _ m' => if wanted then goal c m' else .miss m'
      | .miss m' => if wanted then .miss m' else goal c (m'.restore m s.looping)
  | .given number p q, c, m, goal =>
    if (m.text? t number).isSome then
      p.run t { s with next := if q = .empty then s.next else none } c m goal
    else q.run t s c m goal

structure Match where
  text : Text
  start : Nat
  stop : Nat
  notes : Notes
  deriving DecidableEq, Repr

def Match.piece? (m : Match) (number : Nat) : Option Text := m.notes.text? m.text number

def Match.isSound (m : Match) : Bool :=
  (List.range (m.notes.marks.length / 2)).all fun i =>
    (m.notes.piece? (i + 1)).all fun (start, stop) => start ≤ stop

/-- The leftmost match in the text `t` that starts in `after` or behind it, where `before` stands in
front, last character first. -/
def findFrom (p : Pattern) (t before : Text) (index : Nat) (after : Text) : Option Match :=
  match p.run t ⟨false, none⟩ ⟨before, after, index⟩ ⟨[]⟩ .hit with
  | .hit c m => some ⟨t, index, c.index, m⟩
  | .miss _ =>
    match after with
    | [] => none
    | x :: r => findFrom p t (x :: before) (index + 1) r

def find? (p : Pattern) (t : Text) : Option Match := p.findFrom t [] 0 t

end ClassDiagram.Pattern
