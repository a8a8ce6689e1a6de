import DataplaneSync.Json.Basic

namespace DataplaneSync.Json

open Text

/-!
# Writing JSON

Values are written without blanks, members in their order.  In a text only quotation marks,
backslashes and control characters are escaped.
-/

/-- A character inside a text. -/
def escape (c : Char) : List Char :=
  if c = '"' then ['\\', '"']
  else if c = '\\' then ['\\', '\\']
  else if c = '\x08' then ['\\', 'b']
  else if c = '\x0c' then ['\\', 'f']
  else if c = '\n' then ['\\', 'n']
  else if c = '\r' then ['\\', 'r']
  else if c = '\t' then ['\\', 't']
  else if c.toNat < 0x20 then ['\\', 'u'] ++ padded 4 (hexadecimal c.toNat)
  else [c]

/-- A text between quotation marks. -/
def quoted (s : String) : String := String.ofList ('"' :: s.toList.flatMap escape ++ ['"'])

/-- Digits and a power of ten as a decimal number.  The point stands inside or next to the
digits as long as it is at most sixteen places behind the first digit and fewer than five
zeros precede the digits; otherwise one digit stands before the point and an exponent with its
sign follows. -/
def scientific (digits : Nat) (power : Int) : List Char :=
  let ds := decimal digits
  let point : Int := ds.length + power
  if 0 ≤ power ∧ point ≤ 16 then ds ++ List.replicate power.toNat '0' ++ ['.', '0']
  else if 0 < point ∧ point ≤ 16 then ds.take point.toNat ++ '.' :: ds.drop point.toNat
  else if -5 < point ∧ point ≤ 0 then ['0', '.'] ++ List.replicate (-point).toNat '0' ++ ds
  else
    let sign := if point - 1 < 0 then '-' else '+'
    let fraction := if ds.length = 1 then [] else '.' :: ds.drop 1
    ds.take 1 ++ fraction ++ 'e' :: sign :: decimal (point - 1).natAbs

/-- A number with a fraction: the fewest digits that denote it. -/
def realText (x : Binary64) : String :=
  let digits := if x.mantissa = 0 then ['0', '.', '0'] else
    let (digits, power) := x.shortest
    scientific digits power
  String.ofList (if x.negative then '-' :: digits else digits)

mutual

/-- The written value. -/
def render : Json → String
  | .null => "null"
  | .bool b => if b then "true" else "false"
  | .int i => toString i
  | .real x => realText x
  | .str s => quoted s
  | .arr items => "[" ++ ",".intercalate (renderItems items) ++ "]"
  | .obj members => "\x7b" ++ ",".intercalate (renderMembers members) ++ "\x7d"

/-- The written items of a list. -/
def renderItems : List Json → List String
  | [] => []
  | j :: js => render j :: renderItems js

/-- The written members of an object. -/
def renderMembers : List (String × Json) → List String
  | [] => []
  | (name, j) :: rest => (quoted name ++ ":" ++ render j) :: renderMembers rest

end

/-! ### On several lines -/

/-- The blanks before a line of the given depth. -/
def margin (depth : Nat) : String := String.ofList ('\n' :: List.replicate (2 * depth) ' ')

mutual

/-- The value with one item or member a line, at the given depth. -/
def renderLines (depth : Nat) : Json → String
  | .arr [] => "[]"
  | .obj [] => "\x7b\x7d"
  | .arr items =>
    "[" ++ ",".intercalate (itemLines (depth + 1) items) ++ margin depth ++ "]"
  | .obj members =>
    "\x7b" ++ ",".intercalate (memberLines (depth + 1) members) ++ margin depth ++ "\x7d"
  | .null => render .null
  | .bool b => render (.bool b)
  | .int i => render (.int i)
  | .real x => render (.real x)
  | .str s => render (.str s)

/-- The items of a list, each on its lines. -/
def itemLines (depth : Nat) : List Json → List String
  | [] => []
  | j :: js => (margin depth ++ renderLines depth j) :: itemLines depth js

/-- The members of an object, each on its lines. -/
def memberLines (depth : Nat) : List (String × Json) → List String
  | [] => []
  | (name, j) :: rest =>
    (margin depth ++ quoted name ++ ": " ++ renderLines depth j) :: memberLines depth rest

end

end DataplaneSync.Json
