import DataplaneSync.Text.Numeral

namespace DataplaneSync

/-!
# Binary floating-point numbers

Finite numbers of the 64-bit binary format, as exact pairs of mantissa and exponent.

* `Binary64` — a sign and a magnitude `mantissa * 2 ^ exponent`.
* `Binary64.nearest?` — the number nearest to a quotient, an even mantissa at a tie.
* `Binary64.scaled?` — a decimal significand times a power of ten, rounded after each step.
* `Binary64.shortest` — the fewest decimal digits that stand for the number.
-/

/-- A finite binary floating-point number of 64 bits. -/
structure Binary64 where
  /-- Whether the sign is negative; zero has both signs. -/
  negative : Bool
  /-- The significant bits, fewer than `2 ^ 53`. -/
  mantissa : Nat
  /-- The power of two that scales them, at least `-1074`. -/
  exponent : Int
  deriving DecidableEq

namespace Binary64

/-- The mantissas of numbers that are not too small start here. -/
def firstMantissa : Nat := 4503599627370496

/-- Zero, of either sign. -/
def zero (negative : Bool) : Binary64 := ⟨negative, 0, -1074⟩

/-- `n * 2 ^ k` as a quotient, for a power of either sign. -/
def shift (n d : Nat) (k : Int) : Nat × Nat :=
  if 0 ≤ k then (n * Nat.pow 2 k.toNat, d) else (n, d * Nat.pow 2 (-k).toNat)

/-- The whole number nearest to a quotient; the even one of two that are equally near. -/
def roundEven (n d : Nat) : Nat :=
  let q := n / d
  let r := n % d
  if 2 * r < d then q else if d < 2 * r then q + 1 else if q % 2 = 0 then q else q + 1

/-- The positive number nearest to `n / d`, or nothing beyond the largest finite number. -/
def nearest? (n d : Nat) : Option Binary64 :=
  if n = 0 then some (zero false)
  else
    let guess : Int := (Nat.log2 n : Int) - (Nat.log2 d : Int) - 52
    -- the exponent that leaves a mantissa of exactly 53 bits, unless that is too small
    let exact :=
      let (a, b) := shift n d (-guess)
      if a / b < firstMantissa then guess - 1 else guess
    let e := max exact (-1074)
    let (a, b) := shift n d (-e)
    let m := roundEven a b
    let (m, e) := if m = 2 * firstMantissa then (firstMantissa, e + 1) else (m, e)
    if 971 < e then none else some ⟨false, m, e⟩

/-- The magnitude as a quotient. -/
def magnitude (x : Binary64) : Nat × Nat := shift x.mantissa 1 x.exponent

/-- The product, unless it is too large. -/
def mul? (x y : Binary64) : Option Binary64 :=
  let (a, b) := x.magnitude
  let (c, d) := y.magnitude
  nearest? (a * c) (b * d)

/-- The quotient by a number other than zero. -/
def div? (x y : Binary64) : Option Binary64 :=
  let (a, b) := x.magnitude
  let (c, d) := y.magnitude
  nearest? (a * d) (b * c)

/-- A power of ten as a number. -/
def power? (k : Nat) : Option Binary64 := nearest? (Nat.pow 10 k) 1

/-- Divide by `10 ^ 308` as often as the exponent allows, and by the power that is left. -/
def descend? : Nat → Binary64 → Nat → Option Binary64
  | 0, x, _ => some x
  | fuel + 1, x, k =>
    if k ≤ 308 then (power? k).bind x.div?
    else if x.mantissa = 0 then some x
    else (power? 308).bind fun p => (x.div? p).bind fun y => descend? fuel y (k - 308)

/-- The significand times a power of ten.  Both are rounded before they are combined. -/
def scaled? (significand : Nat) (exponent : Int) : Option Binary64 :=
  (nearest? significand 1).bind fun x =>
    if 0 ≤ exponent then
      if x.mantissa = 0 then some x
      else if exponent ≤ 308 then (power? exponent.toNat).bind x.mul?
      else none
    else descend? ((-exponent).toNat / 308 + 1) x (-exponent).toNat

/-! ### Decimal digits -/

/-- The bounds between which every real rounds to the number, in quarters of the last bit,
and whether the bounds themselves do. -/
structure Interval where
  low : Nat
  high : Nat
  closed : Bool

/-- The reals that round to a number other than zero.  Below a power of two the numbers lie
twice as close. -/
def interval (x : Binary64) : Interval where
  low := 
    if x.mantissa = firstMantissa ∧ -1074 < x.exponent then 4 * x.mantissa - 1
    else 4 * x.mantissa - 2
  high := 4 * x.mantissa + 2
  closed := x.mantissa % 2 == 0

/-- Whether `digits * 10 ^ power` rounds to the number. -/
def denotes (x : Binary64) (digits : Nat) (power : Int) : Bool :=
  let i := x.interval
  let (n, d) := shift digits 1 (2 - x.exponent)
  let (n, d) := if 0 ≤ power then (n * Nat.pow 10 power.toNat, d)
    else (n, d * Nat.pow 10 (-power).toNat)
  if i.closed then i.low * d ≤ n && n ≤ i.high * d else i.low * d < n && n < i.high * d

/-- The number of digits before the decimal point, negative if zeros follow the point. -/
def pointPosition (x : Binary64) : Int :=
  let (n, d) := x.magnitude
  ((Text.decimal (n * Nat.pow 10 330 / d)).length : Int) - 330

/-- The nearer one of the two `n`-digit neighbours that denotes the number. -/
def withDigits? (x : Binary64) (n : Nat) : Option (Nat × Int) :=
  let power := x.pointPosition - n
  let (a, b) := x.magnitude
  let (a, b) := if 0 ≤ power then (a, b * Nat.pow 10 power.toNat)
    else (a * Nat.pow 10 (-power).toNat, b)
  let near := roundEven a b
  let other := if near = a / b then near + 1 else a / b
  if x.denotes near power then some (near, power)
  else if x.denotes other power then some (other, power)
  else none

/-- The fewest decimal digits that denote a number other than zero, and their power of ten. -/
def shortest (x : Binary64) : Nat × Int :=
  match (List.range 17).findSome? fun n => x.withDigits? (n + 1) with
  | some (digits, power) =>
    -- the upper neighbour of a row of nines has one digit more, a zero
    if digits % 10 = 0 then (digits / 10, power + 1) else (digits, power)
  | none => (0, 0)

end Binary64

end DataplaneSync
