import DataplaneSync.Proofs.AddressTexts

namespace DataplaneSync.Text

/-!
# Texts of numbers

What is written of a number is read back, in every radix from two to sixteen, and where digits end
can be seen from what follows.

* `value?_toDigits` — the value of the digits of a number.
* `exists_digit`, `isDigitOf_of_mem`, `notMem_toDigits` — the characters of a numeral are digits.
* `head?_toDigits` — no numeral starts with a zero, but the one of zero.
* `Stops` — a text that does not go on with a digit; `takeWhile_digits` and `dropWhile_digits` cut
  a text there.
* `unsigned?_decimal` — a decimal number is read with a bound on its value.
-/

variable {radix n : ℕ} {c : Char} {digits rest : List Char}

/-! ### Digits -/

/-- A digit of radix sixteen with a small value is a digit of a smaller radix. -/
theorem digit?_of_lt {d : ℕ} (digit : digit? 16 c = some d) (small : d < radix) :
    digit? radix c = some d := by
  simp only [digit?, Option.ite_none_right_eq_some, Option.some.injEq] at digit ⊢
  obtain ⟨-, rfl⟩ := digit
  exact ⟨small, rfl⟩

/-- A digit has the value that it was written for, in every radix that has it. -/
theorem digit?_digitChar_of_lt (most : radix ≤ 16) (small : n < radix) :
    digit? radix (Nat.digitChar n) = some n :=
  digit?_of_lt (digit?_digitChar (Nat.lt_of_lt_of_le small most)) small

/-! ### Numerals -/

theorem valueFrom?_append (acc : ℕ) (xs ys : List Char) :
    valueFrom? radix acc (xs ++ ys) =
      (valueFrom? radix acc xs).bind fun acc => valueFrom? radix acc ys := by
  induction xs generalizing acc with
  | nil => rfl
  | cons x xs ih =>
    rw [List.cons_append, valueFrom?, valueFrom?, Option.bind_assoc]
    exact congrArg _ (funext fun d => ih (acc * radix + d))

/-- The digits of a number, read from the first to the last, have its value. -/
theorem valueFrom?_toDigits (least : 1 < radix) (most : radix ≤ 16) (n : ℕ) :
    valueFrom? radix 0 (Nat.toDigits radix n) = some n := by
  -- digits are split off at the end, but read from the front
  induction n using Nat.strongRecOn with
  | ind n ih =>
    rw [Nat.toDigits_eq_if least]
    split
    · next small => simp [valueFrom?, digit?_digitChar_of_lt most small]
    · next large =>
      have smaller : n / radix < n := Nat.div_lt_self (by omega) least
      have last : n % radix < radix := Nat.mod_lt n (by omega)
      rw [valueFrom?_append, ih _ smaller, Option.bind_some, valueFrom?,
        digit?_digitChar_of_lt most last, Option.bind_some, valueFrom?, Nat.div_add_mod']

/-- A number is read back from its digits. -/
theorem value?_toDigits (least : 1 < radix) (most : radix ≤ 16) (n : ℕ) :
    value? radix (Nat.toDigits radix n) = some n := by
  have some_ : (Nat.toDigits radix n).isEmpty = false := by simp [Nat.toDigits_ne_nil]
  rw [value?, some_]
  exact valueFrom?_toDigits least most n

/-- The characters of a numeral are digits. -/
theorem exists_digit (least : 1 < radix) (member : c ∈ Nat.toDigits radix n) :
    ∃ d < radix, c = Nat.digitChar d := by
  induction n using Nat.strongRecOn with
  | ind n ih =>
    rw [Nat.toDigits_eq_if least] at member
    split at member
    · next small => exact ⟨n, small, List.mem_singleton.mp member⟩
    · next large =>
      rcases List.mem_append.mp member with earlier | last
      · exact ih _ (Nat.div_lt_self (by omega) least) earlier
      · exact ⟨_, Nat.mod_lt n (by omega), List.mem_singleton.mp last⟩

theorem isDigitOf_of_mem (least : 1 < radix) (most : radix ≤ 16)
    (member : c ∈ Nat.toDigits radix n) : isDigitOf radix c = true := by
  obtain ⟨d, small, rfl⟩ := exists_digit least member
  simp [isDigitOf, digit?_digitChar_of_lt most small]

/-- No other character is in a numeral. -/
theorem notMem_toDigits (least : 1 < radix) (most : radix ≤ 16) (other : isDigitOf radix c = false) :
    c ∉ Nat.toDigits radix n := by
  intro member
  rw [isDigitOf_of_mem least most member] at other
  contradiction

/-- The numeral of a number that is not zero does not start with a zero. -/
theorem head?_toDigits (least : 1 < radix) (most : radix ≤ 16) (positive : 0 < n) :
    (Nat.toDigits radix n).head? ≠ some '0' := by
  induction n using Nat.strongRecOn with
  | ind n ih =>
    rw [Nat.toDigits_eq_if least]
    split
    · next small =>
      intro zero
      have zero : Nat.digitChar n = '0' := Option.some.inj zero
      -- the digit would have two values
      have value := digit?_digitChar_of_lt most small
      rw [zero] at value
      have nought : digit? radix '0' = some 0 := digit?_of_lt rfl (by omega)
      exact absurd (Option.some.inj (value.symm.trans nought)) (by omega)
    · next large =>
      have earlier := ih _ (Nat.div_lt_self positive least) (Nat.div_pos (by omega) (by omega))
      obtain ⟨c, more, first⟩ := List.exists_cons_of_ne_nil (@Nat.toDigits_ne_nil (n / radix) radix)
      rwa [first] at earlier ⊢

/-! ### Where digits end -/

/-- A text that does not go on with a digit. -/
def Stops (radix : ℕ) (rest : List Char) : Prop :=
  ∀ c, rest.head? = some c → isDigitOf radix c = false

theorem stops_nil : Stops radix [] := nofun

theorem stops_cons : Stops radix (c :: rest) ↔ isDigitOf radix c = false := by
  simp [Stops]

/-- The digits at the start of a text end where it stops. -/
theorem takeWhile_digits (all : ∀ c ∈ digits, isDigitOf radix c = true) (stops : Stops radix rest) :
    (digits ++ rest).takeWhile (isDigitOf radix) = digits := by
  rw [List.takeWhile_append_of_pos all]
  cases rest with
  | nil => rw [List.takeWhile_nil, List.append_nil]
  | cons c rest =>
    rw [List.takeWhile_cons_of_neg (by simp [stops_cons.mp stops]), List.append_nil]

/-- What follows the digits at the start of a text. -/
theorem dropWhile_digits (all : ∀ c ∈ digits, isDigitOf radix c = true) (stops : Stops radix rest) :
    (digits ++ rest).dropWhile (isDigitOf radix) = rest := by
  rw [List.dropWhile_append_of_pos all]
  cases rest with
  | nil => rfl
  | cons c rest => rw [List.dropWhile_cons_of_neg (by simp [stops_cons.mp stops])]

/-! ### Numbers with a bound -/

/-- A number within the bound is read back from its decimal numeral. -/
theorem unsigned?_decimal {most : ℕ} (small : n ≤ most) : unsigned? most (decimal n) = some n := by
  unfold unsigned?
  split
  · next rest signed =>
    have plus : '+' ∈ decimal n := signed ▸ List.mem_cons_self
    exact absurd plus (notMem_toDigits (by decide) (by decide) (by decide))
  · have value : value? 10 (decimal n) = some n := value?_toDigits (by decide) (by decide) n
    simp only [value, Option.bind_some, if_pos small]

end DataplaneSync.Text
