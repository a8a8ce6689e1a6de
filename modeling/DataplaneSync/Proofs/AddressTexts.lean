import DataplaneSync.Address.Mac
import DataplaneSync.Text.Blank
import Mathlib.Tactic.IntervalCases

namespace DataplaneSync

/-!
# Texts of addresses

What is written can be read back.

* `Text.digit?_digitChar`, `Text.digitChar_ne` — the digits.
* `MacAddress.parse_toText` — a hardware address is read back from its text.
* `MacAddress.trim_toText` — whose characters are none of those that trimming removes.
-/

/-! ### Characters -/

namespace Text

/-- A digit has the value that it was written for. -/
theorem digit?_digitChar {n : Nat} (small : n < 16) : digit? 16 (Nat.digitChar n) = some n := by
  interval_cases n <;> rfl

/-- Digits are neither signs nor separators nor blank. -/
theorem digitChar_ne {n : Nat} (small : n < 16) :
    Nat.digitChar n ≠ '+' ∧ Nat.digitChar n ≠ ':' ∧ isBlank (Nat.digitChar n) = false := by
  interval_cases n <;> decide

/-- Trimming leaves a text alone that has no blank character. -/
theorem trim_eq_self {s : String} (solid : ∀ c ∈ s.toList, isBlank c = false) : trim s = s := by
  have keep : ∀ cs : List Char, (∀ c ∈ cs, isBlank c = false) → cs.dropWhile isBlank = cs := by
    intro cs solid
    cases cs with
    | nil => rfl
    | cons c rest => rw [List.dropWhile_cons_of_neg (by simp [solid c List.mem_cons_self])]
  have solid' : ∀ c ∈ s.toList.reverse, isBlank c = false :=
    fun c member => solid c (List.mem_reverse.mp member)
  rw [trim, trimBlanks, keep _ solid, keep _ solid', List.reverse_reverse, String.ofList_toList]

end Text

/-! ### Hardware addresses -/

namespace MacAddress

open Text

/-- The two digits of an octet. -/
theorem octet_digits (o : UInt8) : o.toNat / 16 < 16 ∧ o.toNat % 16 < 16 := by
  have := o.toNat_lt
  omega

/-- The text of an octet is read as the octet. -/
theorem octet?_octetText (o : UInt8) : octet? (octetText o) = some o := by
  obtain ⟨high, low⟩ := octet_digits o
  have whole : UInt8.ofNat (16 * (o.toNat / 16) + o.toNat % 16) = o := by
    rw [Nat.div_add_mod o.toNat 16, UInt8.ofNat_toNat]
  simp only [octetText, octet?, if_neg (digitChar_ne high).1, digit?_digitChar high,
    digit?_digitChar low, Option.bind_eq_bind, Option.bind_some, Option.pure_def, whole]

/-- The characters of an octet are digits. -/
theorem of_mem_octetText {o : UInt8} {c : Char} (member : c ∈ octetText o) :
    ∃ n < 16, c = Nat.digitChar n := by
  obtain ⟨high, low⟩ := octet_digits o
  rcases List.mem_cons.mp member with rfl | member
  · exact ⟨_, high, rfl⟩
  · exact ⟨_, low, List.mem_singleton.mp member⟩

/-- The characters of an address are digits and colons. -/
theorem of_mem_toChars {m : MacAddress} {c : Char} (member : c ∈ m.toChars) :
    c = ':' ∨ ∃ n < 16, c = Nat.digitChar n := by
  have octetwise : c = ':' ∨ ∃ o, c ∈ octetText o := by
    simp only [toChars, octets, List.map_cons, List.map_nil, List.intercalate,
      List.intersperse_cons_cons, List.intersperse_singleton, List.flatten_cons, List.flatten_nil,
      List.mem_append, List.mem_singleton] at member
    grind
  exact octetwise.imp_right fun ⟨_, own⟩ => of_mem_octetText own

/-- A hardware address is read back from its text. -/
theorem parse_toText (m : MacAddress) : parse m.toText = .ok m := by
  have colon : separator m.toChars = ':' := by
    refine if_pos ?_
    simp [toChars, octets, List.intercalate]
  have parts : m.toChars.splitOn ':' = m.octets.map octetText := by
    refine List.splitOn_intercalate ':' ?_ (by simp [octets])
    intro part among colon
    obtain ⟨o, -, rfl⟩ := List.mem_map.mp among
    obtain ⟨n, small, same⟩ := of_mem_octetText colon
    exact (digitChar_ne small).2.1 same.symm
  have read : ofChars? m.toChars = some m := by
    simp [ofChars?, colon, parts, octets, octet?_octetText]
  rw [parse, toText, String.toList_ofList, read]

/-- Trimming leaves the text of an address alone. -/
theorem trim_toText (m : MacAddress) : trim m.toText = m.toText := by
  refine trim_eq_self fun c member => ?_
  rw [toText, String.toList_ofList] at member
  rcases of_mem_toChars member with rfl | ⟨n, small, rfl⟩
  · decide
  · exact (digitChar_ne small).2.2

/-- The text of an address is not empty. -/
theorem toText_ne_empty (m : MacAddress) : m.toText ≠ "" := by
  intro empty
  have none_ : m.toChars = [] := by simpa [toText] using congrArg String.toList empty
  simp [toChars, octets, List.intercalate, octetText] at none_

end MacAddress

end DataplaneSync
