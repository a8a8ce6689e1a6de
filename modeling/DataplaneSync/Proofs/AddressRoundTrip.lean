import DataplaneSync.Address.Cidr
import DataplaneSync.Proofs.AddressForms

namespace DataplaneSync

/-!
# Addresses and their texts

Writing an address and reading one never drift apart.

* `Cidr.splitLastSlash?_append` — where a text with a slash is cut.
* `Cidr.parse_toText` — an interface address is read back from its text, of either version and with
  every length that fits.
* `FaithfulTexts` — what that means for all texts that are read: the written texts stand for the
  values, and writing again leaves them alone.
* `addressTexts_faithful` — interface addresses and hardware addresses have faithful texts, and
  those of interface addresses have the standard form.
-/

/-! ### Interface addresses -/

theorem IpAddress.width_le (x : IpAddress) : x.width ≤ 128 := by
  cases x <;> simp [width]

namespace Cidr

open Text

variable {cs xs ys : List Char}

theorem splitLastSlash?_eq_none (plain : '/' ∉ cs) : splitLastSlash? cs = none := by
  induction cs with
  | nil => rfl
  | cons c cs ih =>
    rw [splitLastSlash?, ih (List.not_mem_of_not_mem_cons plain)]
    exact if_neg (List.ne_of_not_mem_cons plain).symm

/-- A text is cut at its last slash. -/
theorem splitLastSlash?_append (plain : '/' ∉ ys) :
    splitLastSlash? (xs ++ '/' :: ys) = some (xs, ys) := by
  induction xs with
  | nil =>
    rw [List.nil_append, splitLastSlash?, splitLastSlash?_eq_none plain]
    exact if_pos rfl
  | cons x xs ih =>
    -- a slash further behind comes before `x`, even if `x` is one
    rw [List.cons_append, splitLastSlash?, ih]

/-- The digits of a length are no slashes. -/
theorem slash_notMem_decimal (n : ℕ) : '/' ∉ decimal n :=
  notMem_toDigits (by decide) (by decide) (by decide)

/-- Every length that fits an address is small enough to be read. -/
theorem length_le_most (c : Cidr) : c.length ≤ 255 :=
  c.length_le.trans (c.address.width_le.trans (by decide))

/-- What is made of an address and a length has them. -/
theorem make_eq_ok_iff {address : IpAddress} {length : ℕ} {c : Cidr} :
    make address length = .ok c ↔ c.address = address ∧ c.length = length := by
  constructor
  · intro made
    unfold make at made
    split at made
    · obtain rfl := Except.ok.inj made
      exact ⟨rfl, rfl⟩
    · contradiction
  · rintro ⟨rfl, rfl⟩
    exact dif_pos c.length_le

/-- Something can be made of an address and each length that fits it. -/
theorem exists_make_iff {address : IpAddress} {length : ℕ} :
    (∃ c, make address length = .ok c) ↔ length ≤ address.width := by
  constructor
  · rintro ⟨c, made⟩
    obtain ⟨rfl, rfl⟩ := make_eq_ok_iff.mp made
    exact c.length_le
  · exact fun fits => ⟨⟨address, length, fits⟩, dif_pos fits⟩

/-- An interface address is read back from its text. -/
theorem parse_toText (c : Cidr) : parse c.toText = .ok c := by
  have cut : splitLastSlash? c.toText.toList = some (c.address.toChars, decimal c.length) := by
    rw [toText, String.toList_ofList]
    exact splitLastSlash?_append (slash_notMem_decimal c.length)
  rw [parse, cut]
  simp only [IpAddress.ofChars?_toChars, unsigned?_decimal c.length_le_most]
  exact make_eq_ok_iff.mpr ⟨rfl, rfl⟩

-- the last run of zeros is as long as the first
example : (parse "2001:0DB8:0:0:1:0:0:1/+64").map toText = .ok "2001:db8::1:0:0:1/64" := by rfl

example : (parse "0:0:0:0:0:ffff:102:304/96").map toText = .ok "::ffff:1.2.3.4/96" := by rfl

end Cidr

/-! ### Faithful texts -/

section

variable {α : Type} {write : α → String} {read : String → Except AddressError α}

/-- The text of what a text is read as. -/
def rewritten (write : α → String) (read : String → Except AddressError α) (text : String) :
    Except AddressError String :=
  (read text).map write

/-- The texts that are written stand for the values that are read. -/
structure FaithfulTexts (write : α → String) (read : String → Except AddressError α) : Prop where
  /-- Each value is read back from its text. -/
  back (a : α) : read (write a) = .ok a
  /-- Texts are read as equal values exactly if writing again makes equal texts of them. -/
  same_iff {s t : String} {a b : α} (left : read s = .ok a) (right : read t = .ok b) :
    a = b ↔ rewritten write read s = rewritten write read t
  /-- Writing again changes nothing more. -/
  fixed {s t : String} (again : rewritten write read s = .ok t) : rewritten write read t = .ok t

/-- Texts are faithful if every value is read back from its own. -/
theorem FaithfulTexts.of_back (back : ∀ a, read (write a) = .ok a) : FaithfulTexts write read where
  back := back
  same_iff {s t a b} left right := by
    -- equal texts are read as one value, and that is both `a` and `b`
    have shown : rewritten write read s = .ok (write a) ∧ rewritten write read t = .ok (write b) :=
      ⟨congrArg (·.map write) left, congrArg (·.map write) right⟩
    rw [shown.1, shown.2]
    constructor
    · rintro rfl
      rfl
    · intro same
      have texts : write a = write b := Except.ok.inj same
      exact Except.ok.inj ((back a).symm.trans ((congrArg read texts).trans (back b)))
  fixed {s t} again := by
    cases found : read s with
    | error e => simp [rewritten, found, Except.map] at again
    | ok a =>
      have text : write a = t := by simpa [rewritten, found, Except.map] using again
      rw [← text, rewritten, back a]
      rfl

end

/-- Interface addresses and hardware addresses have faithful texts.  There is an interface address
for each address with each length that fits it, and it is written as the standard text of the
address, a slash and the numeral of the length. -/
theorem addressTexts_faithful :
    FaithfulTexts Cidr.toText Cidr.parse ∧
    FaithfulTexts MacAddress.toText MacAddress.parse ∧
    (∀ address length, length ≤ address.width ↔
      ∃ c, Cidr.make address length = .ok c ∧ c.address = address ∧ c.length = length) ∧
    ∀ c : Cidr, ∃ host numeral, c.address.Standard host ∧ Text.Numeral 10 c.length numeral ∧
      c.toText = String.ofList (host ++ '/' :: numeral) := by
  refine ⟨.of_back Cidr.parse_toText, .of_back MacAddress.parse_toText, fun address length => ?_,
    fun c => ⟨c.address.toChars, Text.decimal c.length, c.address.standard_toChars, ?_, rfl⟩⟩
  · rw [← Cidr.exists_make_iff]
    exact exists_congr fun c => (and_iff_left_of_imp Cidr.make_eq_ok_iff.mp).symm
  · exact Text.numeral_toDigits (by decide) (by decide) c.length

end DataplaneSync
