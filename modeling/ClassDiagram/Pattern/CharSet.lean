import ClassDiagram.Text.Blank
import ClassDiagram.Text.Case
import ClassDiagram.Text.Word

/-!
# Sets of characters

A set in a pattern lists code points, spans of them and named classes, or is the complement of such
a list. It can be told not to distinguish capital and small letters, of all scripts or of the first
128 characters only. A character is then looked for in the form of its small letter.
-/
namespace ClassDiagram.Pattern
open Text

inductive CharClass where
  | decimal
  | blank
  | word
  deriving DecidableEq, Repr

/-- Whether a class has a character; `ascii` restricts it to the first 128 characters. -/
def CharClass.has (ascii : Bool) : CharClass → Char → Bool
  | .decimal, c => (!ascii || c.toNat < 128) && isDecimal c
  | .blank, c => if ascii then (9 ≤ c.toNat && c.toNat ≤ 13) || c = ' ' else isBlank c
  | .word, c => (!ascii || c.toNat < 128) && isWord c

inductive Letters where
  | exact
  /-- A letter also equals its other cases. -/
  | anyCase (ascii : Bool)
  deriving DecidableEq, Repr

namespace Letters

def fold : Letters → Nat → Nat
  | .exact, n => n
  | .anyCase ascii, n => if ascii && 128 ≤ n then n else smallOf n

def distinguishes : Letters → Nat → Bool
  | .exact, _ => false
  | .anyCase ascii, n => !(ascii && 128 ≤ n) && isCased n

/-- The folded characters that equal a folded one. -/
def kin : Letters → Nat → List Nat
  | .anyCase false, n => kinOf n
  | _, n => [n]

def distinguishesIn (letters : Letters) (lo hi : Nat) : Bool :=
  match letters with
  | .exact => false
  | .anyCase ascii =>
    0xffff < hi || casedRanges.any fun (first, last) =>
      first ≤ hi && lo ≤ last && (!ascii || max first lo < 128)

def forms (letters : Letters) (n : Nat) : List Nat :=
  (letters.kin n).flatMap fun k => k :: (capitalsOf k).filter (letters.fold · = k)

end Letters

inductive Member where
  | code (n : Nat)
  | span (lo hi : Nat)
  | ofClass (kind : CharClass) (ascii inside : Bool)
  deriving DecidableEq, Repr

namespace Member

def has : Member → Char → Bool
  | .code n, c => c.toNat = n
  | .span lo hi, c => lo ≤ c.toNat && c.toNat ≤ hi
  | .ofClass kind ascii inside, c => kind.has ascii c == inside

/-- Whether a member has a folded character. Code points beyond the first 65536 are not folded
themselves, and a span that reaches there takes the first capital of any script. -/
def hasFolded (letters : Letters) : Member → Nat → Bool
  | .code n, c => if n ≤ 0xffff then (letters.kin (letters.fold n)).contains c else c = n
  | .span lo hi, c =>
    let forms :=
      letters.forms c
        ++ if hi ≤ 0xffff then [] else ((kinOf c).flatMap capitalsOf).take 1
    forms.any fun n => lo ≤ n && n ≤ hi
  | .ofClass kind ascii inside, c => kind.has ascii (Char.ofNat c) == inside

def isCased (letters : Letters) : Member → Bool
  | .code n => letters ≠ .exact && (0xffff < n || letters.distinguishes n)
  | .span lo hi => letters.distinguishesIn lo hi
  | .ofClass _ _ _ => false

end Member

structure CharSet where
  negated : Bool
  members : List Member
  letters : Letters
  deriving DecidableEq, Repr

namespace CharSet

def has (s : CharSet) (c : Char) : Bool :=
  match s.letters with
  | .exact => s.members.any (·.has c) != s.negated
  | letters => s.members.any (·.hasFolded letters (letters.fold c.toNat)) != s.negated

/-- A set that compares letters in a way; without any letters that have other cases it compares
exactly. -/
def make (negated : Bool) (members : List Member) (letters : Letters) : CharSet :=
  ⟨negated, members, if members.any (·.isCased letters) then letters else .exact⟩

def single (negated : Bool) (n : Nat) (letters : Letters) : CharSet :=
  if letters.distinguishes n then ⟨negated, [.code (letters.fold n)], letters⟩
  else ⟨negated, [.code n], .exact⟩

def all : CharSet := ⟨true, [], .exact⟩

def notLineFeed : CharSet := ⟨true, [.code 10], .exact⟩

def isNearlyAll (s : CharSet) : Bool :=
  match s.negated, s.members with
  | true, [] => true
  | true, [.code _] => true
  | _, _ => false

/-- Whether a set folds no letters and leaves out more than one character. An alternative that
starts with such a set is passed over at once if the set does not have the next character. -/
def isPlain (s : CharSet) : Bool := s.letters = .exact && !s.isNearlyAll

end CharSet

end ClassDiagram.Pattern
