import ClassDiagram.Text.Basic

/-!
# Blanks and lines

Two classes of characters: blanks, and the line ends among them. A text is cut into lines at every
line end, where a carriage return and the line feed after it are one end.
-/
namespace ClassDiagram.Text

/-- White space: the controls from tab to carriage return and from file to unit separator, the space
and the other spaces and separators. -/
def isBlank (c : Char) : Bool :=
  let n := c.toNat
  (9 ≤ n && n ≤ 13) || (0x1c ≤ n && n ≤ 0x20) || n = 0x85 || n = 0xa0 || n = 0x1680
    || (0x2000 ≤ n && n ≤ 0x200a) || n = 0x2028 || n = 0x2029 || n = 0x202f || n = 0x205f
    || n = 0x3000

def isLineEnd (c : Char) : Bool :=
  let n := c.toNat
  (10 ≤ n && n ≤ 13) || (0x1c ≤ n && n ≤ 0x1e) || n = 0x85 || n = 0x2028 || n = 0x2029

/-- The lines of a text without their ends. After a final line end there is no further line. -/
def splitLines : Text → List Text
  | [] => []
  | '\r' :: '\n' :: r => [] :: splitLines r
  | c :: r =>
    if isLineEnd c then [] :: splitLines r
    else
      match splitLines r with
      | [] => [[c]]
      | l :: ls => (c :: l) :: ls

def trim (t : Text) : Text := ((t.dropWhile isBlank).reverse.dropWhile isBlank).reverse

/-- Of each run of blanks only the last is kept. -/
def collapseBlanks : Text → Text
  | [] => []
  | c :: r =>
    if isBlank c && (r.head?.any isBlank) then collapseBlanks r
    else c :: collapseBlanks r

def singleLine (t : Text) : Text := t.collapseBlanks.map fun c => if isBlank c then ' ' else c

/-- Every line end that is a line feed, a carriage return or both in turn, written as a line feed.
-/
def normalizeLineFeeds : Text → Text
  | [] => []
  | '\r' :: '\n' :: r => '\n' :: normalizeLineFeeds r
  | c :: r => (if c = '\r' then '\n' else c) :: normalizeLineFeeds r

theorem isBlank_of_isLineEnd {c : Char} (h : isLineEnd c = true) : isBlank c = true := by
  simp only [isLineEnd, isBlank, Bool.or_eq_true, Bool.and_eq_true, decide_eq_true_eq] at *
  omega

end ClassDiagram.Text
