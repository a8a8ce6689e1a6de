namespace DataplaneSync.Yaml

/-!
# Places in a YAML text

The classes of characters that the layout of a text depends on, and cursors, which count lines,
columns and bytes while a text is read.
-/

/-! ### Characters -/

/-- Whether a character may stand in a text at all. -/
def isPrintable (c : Char) : Bool :=
  let n := c.toNat
  n == 0x9 || n == 0xa || n == 0xd || (0x20 ≤ n && n ≤ 0x7e) || n == 0x85 ||
    (0xa0 ≤ n && n ≤ 0xfffd) || 0x10000 ≤ n

/-- Whether a character ends a line. -/
def isBreak (c : Char) : Bool :=
  c == '\n' || c == '\r' || c == '\u0085' || c == '\u2028' || c == '\u2029'

/-- Whether a character separates words. -/
def isSpace (c : Char) : Bool := c == ' ' || c == '\t'

/-- Whether the word ends before the given text: at a space, a line break or the end. -/
def endsWord : List Char → Bool
  | [] => true
  | c :: _ => isSpace c || isBreak c

/-! ### Cursors -/

/-- A place in a text. -/
structure Cursor where
  /-- The characters from here on. -/
  rest : List Char
  line : Nat := 0
  column : Nat := 0
  /-- The number of bytes before, where a column is a number of characters. -/
  offset : Nat := 0

/-- The number of bytes that characters take in UTF-8. -/
def byteLength (cs : List Char) : Nat := cs.foldr (·.utf8Size + ·) 0

namespace Cursor

/-- Step over `n` characters of a line. -/
def skips (c : Cursor) (n : Nat) : Cursor :=
  { c with
    rest := c.rest.drop n
    column := c.column + n
    offset := c.offset + byteLength (c.rest.take n) }

/-- Step over a character of a line. -/
def skip (c : Cursor) : Cursor := c.skips 1

/-- The number of characters that a line break takes. -/
def breakLength : List Char → Nat
  | '\r' :: '\n' :: _ => 2
  | _ => 1

/-- What a line break counts as in a scalar: a line feed, unless it is one of the separators
that text keeps. -/
def breakText : List Char → Char
  | '\u2028' :: _ => '\u2028'
  | '\u2029' :: _ => '\u2029'
  | _ => '\n'

/-- Step over a line break. -/
def skipBreak (c : Cursor) : Cursor :=
  let n := breakLength c.rest
  { rest := c.rest.drop n
    line := c.line + 1
    column := 0
    offset := c.offset + byteLength (c.rest.take n) }

/-- Whether a line with a document marker of the given character starts here. -/
def isMarker (c : Cursor) (x : Char) : Bool :=
  c.column == 0 &&
    match c.rest with
    | a :: b :: d :: rest => a == x && b == x && d == x && endsWord rest
    | _ => false

/-- Whether a line with any document marker starts here. -/
def isAnyMarker (c : Cursor) : Bool := c.isMarker '-' || c.isMarker '.'

end Cursor

end DataplaneSync.Yaml
