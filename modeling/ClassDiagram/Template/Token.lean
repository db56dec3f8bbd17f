import ClassDiagram.Template.Fault
import ClassDiagram.Text.Blank
import ClassDiagram.Text.CharName.Lookup
import ClassDiagram.Text.Name

/-!
# The tokens of a template

A template text is cut into literal text, tags in braces with percent signs, places in double braces
and comments in braces with number signs, which are left out. Tags and places are cut into names,
texts in quotes, numbers and signs. A hyphen at the inner side of a brace takes away the blanks at
its outer side. Where a text cannot be cut any further, its tokens end with the reason.
-/
namespace ClassDiagram.Template
open Text

inductive Token where
  | data (t : Text)
  | tagStart
  | tagEnd
  | placeStart
  | placeEnd
  | name (t : Text)
  | string (t : Text)
  | integer (n : Nat)
  | float
  | sign (t : Text)
  | bad (fault : Fault)
  deriving DecidableEq, Repr

def Token.shown : Token → Text
  | .data _ => "template data / text".toList
  | .tagStart => "begin of statement block".toList
  | .tagEnd => "end of statement block".toList
  | .placeStart => "begin of print statement".toList
  | .placeEnd => "end of print statement".toList
  | .name t => t
  | .string _ => "string".toList
  | .integer _ => "integer".toList
  | .float => "float".toList
  | .sign t => t
  | .bad _ => []

def quotedText? (quote : Char) : Text → Option (Text × Text)
  | [] => none
  | '\\' :: c :: r => (quotedText? quote r).map fun (t, rest) => ('\\' :: c :: t, rest)
  | c :: r =>
    if c = quote then some ([], r)
    else (quotedText? quote r).map fun (t, rest) => (c :: t, rest)

/-- A text in which every character beyond the first 128 is escaped by its number. -/
def toAscii (t : Text) : Text :=
  t.flatMap fun c => if c.toNat < 128 then [c] else escapeNumber c.toNat

def digitValue (c : Char) : Nat :=
  if c.isDigit then c.toNat - 48 else if c.isUpper then c.toNat - 55 else c.toNat - 87

def isHex (c : Char) : Bool := c.isDigit || ('a' ≤ c && c ≤ 'f') || ('A' ≤ c && c ≤ 'F')

def valueIn (base : Nat) (digits : Text) : Nat :=
  digits.foldl (fun n c => base * n + digitValue c) 0

def plainEscape? (c : Char) : Option Text :=
  match c with
  | '\n' => some []
  | '\\' => some ['\\']
  | '\x27' => some ['\x27']
  | '\x22' => some ['\x22']
  | 'a' => some ['\x07']
  | 'b' => some ['\x08']
  | 'f' => some ['\x0c']
  | 'n' => some ['\n']
  | 'r' => some ['\r']
  | 't' => some ['\t']
  | 'v' => some ['\x0b']
  | _ => none

def hexEscape? (c : Char) : Option (Nat × String) :=
  match c with
  | 'x' => some (2, "truncated \\xXX escape")
  | 'u' => some (4, "truncated \\uXXXX escape")
  | 'U' => some (8, "truncated \\UXXXXXXXX escape")
  | _ => none

def namedEscape (t : Text) : Except Fault (Char × Text) :=
  match t with
  | '\x7b' :: r =>
    let name := r.takeWhile (· ≠ '\x7d')
    if name = [] || (r.drop name.length).isEmpty then
      .error (.badEscape "malformed \\N character escape".toList)
    else
      match charNamed? name with
      | some n => .ok (Char.ofNat n, r.drop (name.length + 1))
      | none => .error (.badEscape "unknown Unicode character name".toList)
  | _ => .error (.badEscape "malformed \\N character escape".toList)

/-- A text without its escapes. A backslash in front of anything else stands for itself. `fuel`
bounds the length of the text. -/
def unescape : Nat → Text → Except Fault Text
  | 0, _ => .ok []
  | _, [] => .ok []
  | fuel + 1, '\\' :: c :: r =>
    match plainEscape? c, hexEscape? c with
    | some t, _ => do return t ++ (← unescape fuel r)
    | none, some (count, reason) =>
      let digits := (r.take count).takeWhile isHex
      let n := valueIn 16 digits
      if digits.length < count then .error (.badEscape reason.toList)
      else if n > 0x10ffff then .error (.badEscape "illegal Unicode character".toList)
      else do return Char.ofNat n :: (← unescape fuel (r.drop count))
    | none, none =>
      if c = 'N' then do
        let (x, r) ← namedEscape r
        return x :: (← unescape fuel r)
      else if '0' ≤ c && c ≤ '7' then do
        let digits := ((c :: r).take 3).takeWhile fun x => '0' ≤ x && x ≤ '7'
        return Char.ofNat (valueIn 8 digits) :: (← unescape fuel ((c :: r).drop digits.length))
      else do return '\\' :: c :: (← unescape fuel r)
  | fuel + 1, c :: r => do return c :: (← unescape fuel r)

def stringToken (t : Text) : Token :=
  let t := toAscii t
  match unescape t.length t with
  | .ok t => .string t
  | .error f => .bad f

/-- The length of the longest row of digits of a kind at the start of a text; single underscores may
stand between digits, and in front of the first one if `led`. -/
def rowLength (kind : Char → Bool) (led : Bool) : Text → Nat
  | '_' :: c :: r => if led && kind c then 2 + rowLength kind true r else 0
  | c :: r => if kind c then 1 + rowLength kind true r else 0
  | [] => 0

def exponentLength (t : Text) : Nat :=
  match t with
  | e :: r =>
    if e = 'e' || e = 'E' then
      let signs := match r with
        | '+' :: _ => 1
        | '-' :: _ => 1
        | _ => 0
      let digits := rowLength isDecimal false (r.drop signs)
      if digits = 0 then 0 else 1 + signs + digits
    else 0
  | [] => 0

def floatLength (t : Text) : Nat :=
  let whole := rowLength isDecimal false t
  if whole = 0 then 0
  else
    let fraction :=
      match t.drop whole with
      | '.' :: r =>
        let digits := rowLength isDecimal false r
        if digits = 0 then 0 else 1 + digits
      | _ => 0
    let exponent := exponentLength (t.drop (whole + fraction))
    if fraction + exponent = 0 then 0 else whole + fraction + exponent

def integerLength (t : Text) : Nat × Nat :=
  let based (base : Nat) (kind : Char → Bool) : Nat × Nat :=
    let digits := rowLength kind true (t.drop 2)
    if digits = 0 then (rowLength (· = '0') true t, 10) else (2 + digits, base)
  match t with
  | '0' :: c :: _ =>
    if c = 'b' || c = 'B' then based 2 fun x => x = '0' || x = '1'
    else if c = 'o' || c = 'O' then based 8 fun x => '0' ≤ x && x ≤ '7'
    else if c = 'x' || c = 'X' then based 16 fun x => isHex x || isDecimal x
    else (rowLength (· = '0') true t, 10)
  | c :: _ =>
    if c = '0' then (1, 10)
    else if c.isDigit then (rowLength isDecimal true t, 10)
    else (0, 10)
  | [] => (0, 10)

/-- The greatest length of a whole number in the described language. -/
def integerLimit : Nat := 1000

def integerValue (base : Nat) (t : Text) : Nat :=
  valueIn base ((if base = 10 then t else t.drop 2).filter (· ≠ '_'))

inductive Mode where
  | literal
  /-- A tag or a place; `closings` are those of the brackets that are open, innermost first, and
  `behindDot` is whether a dot stands directly in front. -/
  | inside (tag : Bool) (closings : List Char) (behindDot : Bool)
  deriving DecidableEq, Repr

def untilOpening : Text → Text × Text
  | [] => ([], [])
  | [c] => ([c], [])
  | c :: d :: r =>
    if c = '\x7b' && (d = '%' || d = '\x7b' || d = '#') then ([], c :: d :: r)
    else
      let (front, rest) := untilOpening (d :: r)
      (c :: front, rest)

def trimEnd (t : Text) : Text := (t.reverse.dropWhile isBlank).reverse

def afterComment? : Text → Option Text
  | '-' :: '#' :: '\x7d' :: r => some (r.dropWhile isBlank)
  | '#' :: '\x7d' :: r => some r
  | _ :: r => afterComment? r
  | [] => none

def afterEnd? (tag : Bool) (t : Text) : Option Text :=
  match tag, t with
  | true, '%' :: '\x7d' :: r => some r
  | true, '+' :: '%' :: '\x7d' :: r => some r
  | true, '-' :: '%' :: '\x7d' :: r => some (r.dropWhile isBlank)
  | false, '\x7d' :: '\x7d' :: r => some r
  | false, '-' :: '\x7d' :: '\x7d' :: r => some (r.dropWhile isBlank)
  | _, _ => none

/-- What follows a tag that has only this name, if that comes next; the text starts behind the
opening and its sign. -/
def afterWord? (word : String) (t : Text) : Option Text :=
  let t := t.dropWhile isBlank
  let name := word.toList
  if name.isPrefixOf t then afterEnd? true ((t.drop name.length).dropWhile isBlank) else none

def afterRawEnd? : Text → Option Text
  | '\x7b' :: '%' :: '-' :: r => afterWord? "endraw" r
  | '\x7b' :: '%' :: '+' :: r => afterWord? "endraw" r
  | '\x7b' :: '%' :: r => afterWord? "endraw" r
  | _ => none

def untilRawEnd? : Text → Option (Text × Text)
  | [] => none
  | c :: r =>
    match afterRawEnd? (c :: r) with
    | some rest => some ([], rest)
    | none => (untilRawEnd? r).map fun (t, rest) => (c :: t, rest)

/-- Whether the closing tag behind a content strips the blanks in front of it; `t` starts with the
content. -/
def rawStrips (content t : Text) : Bool := (t.drop (content.length + 2)).head? = some '-'

def doubleSigns : List Text :=
  [['/', '/'], ['*', '*'], ['=', '='], ['!', '='], ['>', '='], ['<', '=']]

def isSign (c : Char) : Bool := "+-/*%~[]()\x7b\x7d><=.:|,;".toList.contains c

def closingOf? (c : Char) : Option Char :=
  if c = '(' then some ')'
  else if c = '[' then some ']'
  else if c = '\x7b' then some '\x7d'
  else none

def isNameLike (c : Char) : Bool := isWord c || inRanges joiningRanges c.toNat

/-- The token for a row of such characters. Different spellings of a name with letters beyond the
first 128 characters may stand for one name, which is not described. -/
def nameToken (t : Text) : Token :=
  if !isName t then .bad .badName
  else if t.all fun c => c.toNat < 128 then .name t
  else .bad .beyond

/-- The token at the start of a text in a tag or a place, and its length; blanks have none.
`position` is that of the text, and `closings` and `behindDot` are those of the mode. -/
def insideToken (position : Nat) (closings : List Char) (behindDot : Bool) (c : Char) (r : Text) :
    Option Token × Nat :=
  let t := c :: r
  let float := if behindDot then 0 else floatLength t
  let (integer, base) := integerLength t
  let bad : Option Token × Nat := (some (.bad (.unexpectedChar c position)), 1)
  if isBlank c then (none, 1)
  else if float ≠ 0 then (some .float, float)
  else if integerLimit < integer then (some (.bad .beyond), 1)
  else if integer ≠ 0 then (some (.integer (integerValue base (t.take integer))), integer)
  else if isNameLike c then
    let name := t.takeWhile isNameLike
    (some (nameToken name), name.length)
  else if c = '\x27' || c = '\x22' then
    match quotedText? c r with
    | some (content, _) => (some (stringToken content), content.length + 2)
    | none => bad
  else if doubleSigns.contains (t.take 2) then (some (.sign (t.take 2)), 2)
  else if !isSign c then bad
  else if c = ')' || c = ']' || c = '\x7d' then
    match closings with
    | [] => (some (.bad (.unopenedBracket c)), 1)
    | closing :: _ => (some (if c = closing then .sign [c] else .bad (.wrongBracket c closing)), 1)
  else (some (.sign [c]), 1)

def bracketsAfter (closings : List Char) : Token → List Char
  | .sign [c] =>
    match closingOf? c with
    | some closing => closing :: closings
    | none => if c = ')' || c = ']' || c = '\x7d' then closings.tail else closings
  | _ => closings

/-- The tokens of a text in a mode; `size` is the length of the whole, and `fuel` bounds the number
of steps. -/
def tokensFrom (size : Nat) : Nat → Mode → Text → List Token
  | 0, _, _ => []
  | _, .inside _ _ _, [] => []
  | fuel + 1, .literal, t =>
    let (front, rest) := untilOpening t
    let strips := (rest.drop 2).head? = some '-'
    let marked := strips || (rest.drop 2).head? = some '+'
    let inner := rest.drop (if marked then 3 else 2)
    let shown := if strips then trimEnd front else front
    let data := if shown = [] then [] else [Token.data shown]
    match rest with
    | _ :: '%' :: _ =>
      match afterWord? "raw" inner with
      | some raw =>
        match untilRawEnd? raw with
        | some (content, after) =>
          let shown := if rawStrips content raw then trimEnd content else content
          data ++ (if shown = [] then [] else [.data shown]) ++ tokensFrom size fuel .literal after
        | none => if raw = [] then data else data ++ [.bad .openRaw]
      | none => data ++ .tagStart :: tokensFrom size fuel (.inside true [] false) inner
    | _ :: '\x7b' :: _ => data ++ .placeStart :: tokensFrom size fuel (.inside false [] false) inner
    | _ :: _ :: _ =>
      match afterComment? inner with
      | some after => data ++ tokensFrom size fuel .literal after
      | none => if inner = [] then data else data ++ [.bad .openComment]
    | _ => data
  | fuel + 1, .inside tag closings behindDot, c :: r =>
    match if closings = [] then afterEnd? tag (c :: r) else none with
    | some after =>
      (if tag then .tagEnd else .placeEnd) :: tokensFrom size fuel .literal after
    | none =>
      let (token, length) := insideToken (size - (r.length + 1)) closings behindDot c r
      let rest := (c :: r).drop length
      match token with
      | none => tokensFrom size fuel (.inside tag closings false) rest
      | some (.bad f) => [.bad f]
      | some token =>
        token :: tokensFrom size fuel
          (.inside tag (bracketsAfter closings token) (token = .sign ['.'])) rest

def tokens (t : Text) : List Token := tokensFrom t.length (2 * t.length + 1) .literal t

end ClassDiagram.Template
