/-!
# Text

Text is a list of characters, so that every function on it is a recursion on a list and every law
about it an induction. This file has the operations that all other modules share: cutting a
qualified name at `::`, joining pieces, searching for a literal piece, and the order by code points
with a stable sort for it.
-/
namespace ClassDiagram

abbrev Text := List Char

namespace Text

def colons : Text := [':', ':']

/-- The pieces of a text between the separators `::`, which are found from the left: `a:::b` has the
pieces `a` and `:b`. The empty text has one empty piece. -/
def components : Text → List Text
  | [] => [[]]
  | ':' :: ':' :: r => [] :: components r
  | c :: r =>
    match components r with
    | [] => [[c]]
    | w :: ws => (c :: w) :: ws

def joinWith (sep : Text) : List Text → Text
  | [] => []
  | [w] => w
  | w :: v :: ws => w ++ sep ++ joinWith sep (v :: ws)

def qualify (parts : List Text) : Text := joinWith colons parts

theorem components_ne_nil (t : Text) : t.components ≠ [] := by
  fun_induction components t with
  | case1 => simp
  | case2 => simp
  | case3 => simp
  | case4 => simp

theorem qualify_nil_cons (ws : List Text) (h : ws ≠ []) :
    qualify ([] :: ws) = colons ++ qualify ws := by
  cases ws with
  | nil => exact absurd rfl h
  | cons w ws => simp [qualify, joinWith]

theorem qualify_cons_cons (c : Char) (w : Text) (ws : List Text) :
    qualify ((c :: w) :: ws) = c :: qualify (w :: ws) := by
  cases ws <;> simp [qualify, joinWith]

theorem qualify_components (t : Text) : qualify t.components = t := by
  fun_induction components t with
  | case1 => rfl
  | case2 r ih => rw [qualify_nil_cons _ (components_ne_nil r), ih]; rfl
  | case3 c r _ h => exact absurd h (components_ne_nil r)
  | case4 c r _ w ws h ih => rw [qualify_cons_cons, ← h, ih]

def properComponents (t : Text) : List Text := t.components.filter (· ≠ [])

def occursIn (w : Text) : Text → Bool
  | [] => w.isEmpty
  | c :: r => w.isPrefixOf (c :: r) || occursIn w r

def splitAtChar (sep : Char) : Text → List Text
  | [] => [[]]
  | c :: r =>
    if c = sep then [] :: splitAtChar sep r
    else
      match splitAtChar sep r with
      | [] => [[c]]
      | w :: ws => (c :: w) :: ws

def dropTrailing (c : Char) (t : Text) : Text := (t.reverse.dropWhile (· = c)).reverse

def ofLines (lines : List String) : Text := lines.flatMap fun l => l.toList ++ ['\n']

/-- The order by code points; a text comes before its extensions. -/
def le : Text → Text → Bool
  | [], _ => true
  | _ :: _, [] => false
  | a :: s, b :: t => a < b || (a = b && le s t)

/-- A sort key: texts that are compared one after the other. -/
abbrev Key := List Text

def Key.le : Key → Key → Bool
  | [], _ => true
  | _ :: _, [] => false
  | a :: s, b :: t => if a = b then Key.le s t else Text.le a b

def insertBy {α : Type} (key : α → Key) (x : α) : List α → List α
  | [] => [x]
  | y :: ys => if Key.le (key x) (key y) then x :: y :: ys else y :: insertBy key x ys

/-- Sorts by a key; elements of one key keep their order. -/
def sortBy {α : Type} (key : α → Key) : List α → List α
  | [] => []
  | x :: xs => insertBy key x (sortBy key xs)

theorem perm_insertBy {α : Type} (key : α → Key) (x : α) (xs : List α) :
    (insertBy key x xs).Perm (x :: xs) := by
  induction xs with
  | nil => exact .refl _
  | cons y ys ih =>
    unfold insertBy
    split
    · exact .refl _
    · exact (ih.cons y).trans (.swap x y ys)

theorem perm_sortBy {α : Type} (key : α → Key) (xs : List α) : (sortBy key xs).Perm xs := by
  induction xs with
  | nil => exact .refl _
  | cons x xs ih => exact (perm_insertBy key x _).trans (ih.cons x)

@[simp] theorem mem_sortBy {α : Type} {key : α → Key} {x : α} {xs : List α} :
    x ∈ sortBy key xs ↔ x ∈ xs := (perm_sortBy key xs).mem_iff

end Text

end ClassDiagram
