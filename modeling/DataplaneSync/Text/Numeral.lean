namespace DataplaneSync.Text

/-!
# Numerals

Digits and natural numbers in radixes up to sixteen.

* `digit?`, `value?` — reading one digit and a whole numeral; an empty numeral has no value.
* `decimal`, `hexadecimal` — writing without leading zeros; letters are lower case.
* `unsigned?` — a decimal numeral with an optional plus sign, up to a largest value.
-/

/-- The value of a digit of the given radix; letters count in either case. -/
def digit? (radix : Nat) (c : Char) : Option Nat :=
  let v :=
    if '0' ≤ c ∧ c ≤ '9' then c.toNat - '0'.toNat
    else if 'a' ≤ c ∧ c ≤ 'f' then c.toNat - 'a'.toNat + 10
    else if 'A' ≤ c ∧ c ≤ 'F' then c.toNat - 'A'.toNat + 10
    else 16
  if v < radix then some v else none

/-- Whether `c` is a digit of the given radix. -/
def isDigitOf (radix : Nat) (c : Char) : Bool := (digit? radix c).isSome

/-- The value of a digit string behind the value `acc` of the digits before it. -/
def valueFrom? (radix : Nat) : Nat → List Char → Option Nat
  | acc, [] => some acc
  | acc, c :: cs => (digit? radix c).bind fun d => valueFrom? radix (acc * radix + d) cs

/-- The value of a numeral, which has at least one digit and nothing but digits. -/
def value? (radix : Nat) (cs : List Char) : Option Nat :=
  if cs.isEmpty then none else valueFrom? radix 0 cs

/-- A number in decimal digits. -/
def decimal (n : Nat) : List Char := Nat.toDigits 10 n

/-- A number in hexadecimal digits. -/
def hexadecimal (n : Nat) : List Char := Nat.toDigits 16 n

/-- The digits of a number in a field of at least `width` places, filled with zeros. -/
def padded (width : Nat) (digits : List Char) : List Char :=
  List.replicate (width - digits.length) '0' ++ digits

/-- A decimal numeral with an optional plus sign, if its value is at most `most`. -/
def unsigned? (most : Nat) (cs : List Char) : Option Nat :=
  let digits := match cs with
    | '+' :: rest => rest
    | _ => cs
  (value? 10 digits).bind fun n => if n ≤ most then some n else none

end DataplaneSync.Text
