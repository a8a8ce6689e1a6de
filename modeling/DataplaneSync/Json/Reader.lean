import DataplaneSync.Json.Basic
import DataplaneSync.Table

namespace DataplaneSync.Json

open Text

/-!
# Reading JSON

* `parse` — reads a whole text; blanks may stand around every token, nothing may follow.
* Whole numbers between `-2^63` and `2^64 - 1` are kept as such; all others, and `-0`, become
  binary floating-point numbers.
* The members of an object are ordered by name, and the last of several with one name counts.
* Values nest at most 127 deep.
-/

/-- The text behind leading blanks. -/
def skipBlanks (cs : List Char) : List Char :=
  cs.dropWhile fun c => c = ' ' || c = '\n' || c = '\t' || c = '\r'

/-! ### Texts -/

/-- The value of four hexadecimal digits at the start, with the text behind them. -/
def unit? : List Char → Option (Nat × List Char)
  | a :: b :: c :: d :: rest => (value? 16 [a, b, c, d]).map fun n => (n, rest)
  | _ => none

/-- Whether a 16-bit unit is the first half of a pair. -/
def isHighHalf (n : Nat) : Bool := 0xd800 ≤ n && n < 0xdc00

/-- Whether a 16-bit unit is the second half of a pair. -/
def isLowHalf (n : Nat) : Bool := 0xdc00 ≤ n && n < 0xe000

/-- The character of an escape by number, behind its first two characters.  A character
beyond the first plane is written as two halves, and no half stands alone. -/
def numbered? (cs : List Char) : Option (Char × List Char) := do
  let (n, rest) ← unit? cs
  if isHighHalf n then
    match rest with
    | '\\' :: 'u' :: rest =>
      let (m, rest) ← unit? rest
      if isLowHalf m then
        some (Char.ofNat (0x10000 + (n - 0xd800) * 0x400 + (m - 0xdc00)), rest)
      else none
    | _ => none
  else if isLowHalf n then none
  else some (Char.ofNat n, rest)

/-- The character of an escape by letter. -/
def lettered? : Char → Option Char
  | '"' => some '"'
  | '\\' => some '\\'
  | '/' => some '/'
  | 'b' => some '\x08'
  | 'f' => some '\x0c'
  | 'n' => some '\n'
  | 'r' => some '\r'
  | 't' => some '\t'
  | _ => none

/-- The characters up to the closing quotation mark, with the text behind it. -/
def characters? : Nat → List Char → List Char → Option (List Char × List Char)
  | 0, _, _ => none
  | fuel + 1, done, cs =>
    match cs with
    | [] => none
    | '"' :: rest => some (done.reverse, rest)
    | '\\' :: 'u' :: rest => do
      let (c, rest) ← numbered? rest
      characters? fuel (c :: done) rest
    | '\\' :: x :: rest => do
      let c ← lettered? x
      characters? fuel (c :: done) rest
    | c :: rest => if c.toNat < 0x20 then none else characters? fuel (c :: done) rest

/-- A text behind its opening quotation mark. -/
def text? (cs : List Char) : Option (String × List Char) :=
  (characters? (cs.length + 1) [] cs).map fun (s, rest) => (String.ofList s, rest)

/-! ### Numbers -/

/-- The largest significand that is kept exactly. -/
def largestWord : Nat := UInt64.size - 1

/-- The significand of a digit string, as far as it fits, and the digits that no longer do. -/
def gather (significand : Nat) : List Char → Nat × List Char
  | [] => (significand, [])
  | c :: cs =>
    let next := significand * 10 + (c.toNat - '0'.toNat)
    if largestWord < next then (significand, c :: cs) else gather next cs

/-- The digits at the start of a text, with the text behind them. -/
def digits (cs : List Char) : List Char × List Char :=
  (cs.takeWhile (isDigitOf 10), cs.dropWhile (isDigitOf 10))

/-- The digits of a fraction, with the text behind them. -/
def fraction? : List Char → Option (Option (List Char) × List Char)
  | '.' :: cs =>
    let (ds, rest) := digits cs
    if ds.isEmpty then none else some (some ds, rest)
  | cs => some (none, cs)

/-- The value of an exponent, with the text behind it. -/
def exponent? : List Char → Option (Option Int × List Char)
  | c :: cs =>
    if c = 'e' ∨ c = 'E' then
      let (negative, cs) := match cs with
        | '-' :: r => (true, r)
        | '+' :: r => (false, r)
        | r => (false, r)
      let (ds, rest) := digits cs
      (value? 10 ds).map fun n => (some (if negative then -(n : Int) else n), rest)
    else some (none, c :: cs)
  | [] => some (none, [])

/-- The number made of the digits of its parts. -/
def number? (negative : Bool) (whole : List Char) (fraction : Option (List Char))
    (exponent : Option Int) : Option Json :=
  let (significand, left) := gather 0 whole
  let real (significand : Nat) (power : Int) : Option Json :=
    if significand = 0 then some (.real (.zero negative))
    else (Binary64.scaled? significand power).map fun x => .real { x with negative := negative }
  match fraction, exponent with
  | none, none =>
    if left.isEmpty then
      if !negative then some (.int significand)
      else if 0 < significand ∧ 2 * significand ≤ UInt64.size then some (.int (-(significand : Int)))
      else real significand 0
    else real significand left.length
  | _, _ =>
    let ds := fraction.getD []
    let (significand, unread) := gather significand ds
    let power : Int := (left.length : Int) - ((ds.length : Int) - unread.length)
    real significand (power + exponent.getD 0)

/-- A number behind its sign, with the text behind it.  A leading zero stands alone. -/
def unsignedNumber? (negative : Bool) (cs : List Char) : Option (Json × List Char) := do
  let (whole, rest) := match cs with
    | '0' :: rest => (['0'], rest)
    | _ => digits cs
  if whole.isEmpty ∨ (whole = ['0'] ∧ rest.head?.any (isDigitOf 10)) then none
  else
    let (fraction, rest) ← fraction? rest
    let (exponent, rest) ← exponent? rest
    let n ← number? negative whole fraction exponent
    pure (n, rest)

/-! ### Values -/

/-- The text behind a word, if it starts with it. -/
def behind? : List Char → List Char → Option (List Char)
  | [], cs => some cs
  | _ :: _, [] => none
  | w :: ws, c :: cs => if w = c then behind? ws cs else none

mutual

/-- A value at the start of a text, with the text behind it. -/
def value : (fuel depth : Nat) → List Char → Option (Json × List Char)
  | 0, _, _ => none
  | fuel + 1, depth, cs =>
    match skipBlanks cs with
    | 'n' :: rest => (behind? "ull".toList rest).map fun r => (.null, r)
    | 't' :: rest => (behind? "rue".toList rest).map fun r => (.bool true, r)
    | 'f' :: rest => (behind? "alse".toList rest).map fun r => (.bool false, r)
    | '"' :: rest => (text? rest).map fun (s, r) => (.str s, r)
    | '-' :: rest => unsignedNumber? true rest
    | '[' :: rest =>
      match depth with
      | 0 => none
      | depth + 1 =>
        match skipBlanks rest with
        | ']' :: rest => some (.arr [], rest)
        | rest => (items fuel depth rest).map fun (xs, r) => (.arr xs, r)
    | '\x7b' :: rest =>
      match depth with
      | 0 => none
      | depth + 1 =>
        match skipBlanks rest with
        | '\x7d' :: rest => some (.obj [], rest)
        | rest => (members fuel depth ∅ rest).map fun (t, r) => (.obj t.entries, r)
    | rest => unsignedNumber? false rest

/-- The items of a list up to its closing bracket. -/
def items : (fuel depth : Nat) → List Char → Option (List Json × List Char)
  | 0, _, _ => none
  | fuel + 1, depth, cs => do
    let (x, rest) ← value fuel depth cs
    match skipBlanks rest with
    | ',' :: rest =>
      let (xs, rest) ← items fuel depth rest
      pure (x :: xs, rest)
    | ']' :: rest => pure ([x], rest)
    | _ => none

/-- The members of an object up to its closing brace, behind the members read so far. -/
def members : (fuel depth : Nat) → Table String Json → List Char →
    Option (Table String Json × List Char)
  | 0, _, _, _ => none
  | fuel + 1, depth, done, cs =>
    match skipBlanks cs with
    | '"' :: rest => do
      let (name, rest) ← text? rest
      match skipBlanks rest with
      | ':' :: rest =>
        let (x, rest) ← value fuel depth rest
        let done := done.insert name x
        match skipBlanks rest with
        | ',' :: rest => members fuel depth done rest
        | '\x7d' :: rest => pure (done, rest)
        | _ => none
      | _ => none
    | _ => none

end

/-- The value that a text spells, if it spells one and nothing else. -/
def parse (text : String) : Option Json :=
  let cs := text.toList
  match value (2 * cs.length + 2) 127 cs with
  | some (x, rest) => if (skipBlanks rest).isEmpty then some x else none
  | none => none

end DataplaneSync.Json
