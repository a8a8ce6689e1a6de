import DataplaneSync.Proofs.IpTexts
import Mathlib.Data.List.Forall2

namespace DataplaneSync

/-!
# The form of address texts

How addresses are written, said without the functions that write them.

* `Text.Numeral` — a numeral without leading zeros, in lower case; `Text.Joined` — several of them
  with a separator between each two.
* `Ipv6Address.lt_or_eq_longestZeroRun` — the first among the longest runs of zeros is found.
* `Ipv4Address.Standard`, `Ipv6Address.Standard` — octets between points; groups between colons with
  that run shortened, or with an embedded IPv4 address.
* `IpAddress.standard_toChars` — every address is written like that.
-/

/-! ### Numerals -/

namespace Text

variable {radix n : ℕ}

/-- A text is a numeral of a number, without leading zeros and without capital letters. -/
structure Numeral (radix n : ℕ) (text : List Char) : Prop where
  value : value? radix text = some n
  trimmed : text.head? = some '0' → text = ['0']
  lower : ∀ c ∈ text, c.isUpper = false

theorem isUpper_digitChar (small : n < 16) : (Nat.digitChar n).isUpper = false := by
  interval_cases n <;> rfl

/-- The digits of a number are a numeral of it. -/
theorem numeral_toDigits (least : 1 < radix) (most : radix ≤ 16) (n : ℕ) :
    Numeral radix n (Nat.toDigits radix n) where
  value := value?_toDigits least most n
  trimmed nought := by
    rcases Nat.eq_zero_or_pos n with rfl | positive
    · exact Nat.toDigits_zero radix
    · exact absurd nought (head?_toDigits least most positive)
  lower c member := by
    obtain ⟨d, small, rfl⟩ := exists_digit least member
    exact isUpper_digitChar (Nat.lt_of_lt_of_le small most)

/-- A text consists of numerals of these numbers, with a separator between each two. -/
def Joined (separator : Char) (radix : ℕ) (numbers : List ℕ) (text : List Char) : Prop :=
  ∃ numerals, List.Forall₂ (Numeral radix) numbers numerals ∧
    text = [separator].intercalate numerals

theorem joined_toDigits (separator : Char) (least : 1 < radix) (most : radix ≤ 16)
    (numbers : List ℕ) :
    Joined separator radix numbers ([separator].intercalate (numbers.map (Nat.toDigits radix))) := by
  refine ⟨_, ?_, rfl⟩
  rw [List.forall₂_map_right_iff, List.forall₂_same]
  exact fun n _ => numeral_toDigits least most n

end Text

open Text

/-! ### Version 4 -/

/-- The standard text of four octets. -/
def Ipv4Address.Standard (x : Ipv4Address) (text : List Char) : Prop :=
  Joined '.' 10 [x.a.toNat, x.b.toNat, x.c.toNat, x.d.toNat] text

theorem Ipv4Address.standard_toChars (x : Ipv4Address) : x.Standard x.toChars :=
  joined_toDigits '.' (by decide) (by decide) [x.a.toNat, x.b.toNat, x.c.toNat, x.d.toNat]

/-! ### Version 6 -/

namespace Ipv6Address

variable {gs before behind : List UInt16} {k : ℕ}

/-- No run of zeros at the start is longer than the one that is found. -/
theorem le_leadingZeros (run : gs = List.replicate k 0 ++ behind) : k ≤ leadingZeros gs := by
  induction k generalizing gs with
  | zero => exact Nat.zero_le _
  | succ k ih =>
    rw [run, List.replicate_succ, List.cons_append, leadingZeros, if_pos rfl]
    exact Nat.succ_le_succ (ih rfl)

/-- A run of zeros is shorter than the longest one that is found, or it is as long and does not come
before that. -/
theorem lt_or_eq_longestZeroRun (run : gs = before ++ List.replicate k 0 ++ behind) :
    k < (longestZeroRun gs).2 ∨
      k = (longestZeroRun gs).2 ∧ (longestZeroRun gs).1 ≤ before.length := by
  induction gs generalizing before with
  | nil =>
    have lengths := congrArg List.length run
    simp only [List.length_append, List.length_replicate, List.length_nil] at lengths
    exact Or.inr ⟨by simp [longestZeroRun]; omega, Nat.zero_le _⟩
  | cons g gs ih =>
    unfold longestZeroRun
    dsimp only
    cases before with
    | nil =>
      -- the run is at the start
      have here := le_leadingZeros run
      split <;> grind
    | cons h before =>
      have later := ih (List.cons.inj run).2
      split <;> grind

/-- The standard text of eight groups. -/
inductive Standard (gs : List UInt16) : List Char → Prop where
  /-- An embedded IPv4 address is written as such. -/
  | mapped {high low : UInt16} {dotted : List Char}
    (embeds : gs = [0, 0, 0, 0, 0, 0xffff, high, low])
    (octets : (embedded high low).Standard dotted) : Standard gs ("::ffff:".toList ++ dotted)
  /-- All groups are written if there are no two zeros in a row. -/
  | whole {text : List Char} (plain : ∀ high low, gs ≠ [0, 0, 0, 0, 0, 0xffff, high, low])
    (apart : ∀ before behind, gs ≠ before ++ [0, 0] ++ behind)
    (groups : Joined ':' 16 (gs.map UInt16.toNat) text) : Standard gs text
  /-- Two colons stand for the first among the longest runs of two or more zeros. -/
  | shortened {before behind : List UInt16} {k : ℕ} {head tail : List Char}
    (plain : ∀ high low, gs ≠ [0, 0, 0, 0, 0, 0xffff, high, low])
    (run : gs = before ++ List.replicate k 0 ++ behind) (several : 1 < k)
    (longest : ∀ before' k' behind', gs = before' ++ List.replicate k' 0 ++ behind' →
      k' < k ∨ k' = k ∧ before.length ≤ before'.length)
    (first : Joined ':' 16 (before.map UInt16.toNat) head)
    (last : Joined ':' 16 (behind.map UInt16.toNat) tail) :
    Standard gs (head ++ [':', ':'] ++ tail)

theorem joined_groupsText (gs : List UInt16) :
    Joined ':' 16 (gs.map UInt16.toNat) (groupsText gs) := by
  have joined := @joined_toDigits 16 ':' (by decide) (by decide) (gs.map UInt16.toNat)
  rw [List.map_map] at joined
  exact joined

theorem standard_toChars (x : Ipv6Address) : Standard x.groups x.toChars := by
  unfold toChars
  split
  · next high low embeds => exact .mapped embeds (embedded high low).standard_toChars
  · next plain =>
    unfold compressed
    dsimp only
    split
    · next several =>
      refine .shortened plain (longestZeroRun_spec x.groups) several ?_
        (joined_groupsText _) (joined_groupsText _)
      intro before k behind run
      rcases lt_or_eq_longestZeroRun run with shorter | ⟨same, later⟩
      · exact Or.inl shorter
      · exact Or.inr ⟨same, (List.length_take_le _ _).trans later⟩
    · next few =>
      refine .whole plain (fun before behind run => few ?_) (joined_groupsText x.groups)
      have two : x.groups = before ++ List.replicate 2 0 ++ behind := run
      rcases lt_or_eq_longestZeroRun two with _ | _ <;> omega

end Ipv6Address

/-! ### Either version -/

/-- The standard text of an address. -/
def IpAddress.Standard : IpAddress → List Char → Prop
  | .v4 x => x.Standard
  | .v6 x => Ipv6Address.Standard x.groups

/-- Addresses are written in their standard form. -/
theorem IpAddress.standard_toChars (x : IpAddress) : x.Standard x.toChars := by
  cases x with
  | v4 x => exact x.standard_toChars
  | v6 x => exact x.standard_toChars

end DataplaneSync
