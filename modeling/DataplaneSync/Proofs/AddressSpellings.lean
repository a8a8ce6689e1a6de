import DataplaneSync.Proofs.AddressTexts
import DataplaneSync.Proofs.SeparatedTexts

namespace DataplaneSync

/-!
# Spellings of hardware addresses

Which texts are read as hardware addresses, and which of them as the same one, said without the
functions that read them.  A group is read as a number, so a plus sign passes for a leading zero.

* `Text.mem_hexDigits` — only hexadecimal digits have a value.
* `MacAddress.Grouped` — six groups of two characters, between colons or between hyphens.
* `MacAddress.exists_parse_iff` — a text is read if each group consists of two hexadecimal digits,
  or of a plus sign and one digit.
* `MacAddress.toText_of_parse` — the address is written like the text that was read, but in lower
  case, with colons for hyphens and with zeros for plus signs.
* `MacAddress.spellings_read` — without plus signs, two digits a group are the whole grammar, and
  the spellings of an address differ in case and separator only.
-/

namespace Text

variable {c : Char} {n : ℕ}

/-! ### Hexadecimal digits -/

/-- The hexadecimal digits, with letters of either case. -/
def hexDigits : List Char := "0123456789abcdefABCDEF".toList

/-- Only hexadecimal digits have a value. -/
theorem mem_hexDigits (read : digit? 16 c = some n) : c ∈ hexDigits := by
  -- a value comes from one of three branches: numerals, small letters and capital ones
  have range : (48 ≤ c.toNat ∧ c.toNat ≤ 57) ∨ (97 ≤ c.toNat ∧ c.toNat ≤ 102) ∨
      (65 ≤ c.toNat ∧ c.toNat ≤ 70) := by
    unfold digit? at read
    split at read
    · next numeral => exact Or.inl numeral
    · split at read
      · next small => exact Or.inr (Or.inl small)
      · split at read
        · next large => exact Or.inr (Or.inr large)
        · contradiction
  rw [← Char.ofNat_toNat c]
  generalize c.toNat = k at range
  rcases range with ⟨least, most⟩ | ⟨least, most⟩ | ⟨least, most⟩ <;> interval_cases k <;> decide

end Text

namespace MacAddress

open Text

variable {m : MacAddress} {c mark : Char} {first group : List Char} {groups : List (List Char)}
  {s text : String} {o : UInt8} {os : List UInt8} {n : ℕ}

/-! ### The grammar -/

/-- A group is one of the given characters and a hexadecimal digit. -/
def Group (first group : List Char) : Prop :=
  ∃ x ∈ first, ∃ y ∈ hexDigits, group = [x, y]

/-- What stands between groups. -/
def separators : List Char := [':', '-']

/-- A text consists of six groups, with colons between them all or with hyphens. -/
def Grouped (first : List Char) (text : String) : Prop :=
  ∃ mark ∈ separators, ∃ groups, groups.length = 6 ∧ (∀ group ∈ groups, Group first group) ∧
    text.toList = [mark].intercalate groups

/-- The text in lower case and with colons for hyphens. -/
def folded (text : String) : String := text.map fun c => if c = '-' then ':' else c.toLower

/-- The text with zeros for plus signs. -/
def filled (text : String) : String := text.map fun c => if c = '+' then '0' else c

/-- The standard spelling of a character of a text: both changes at once. -/
def standard (c : Char) : Char :=
  if c = '+' then '0' else if c = '-' then ':' else c.toLower

theorem toList_folded_filled (text : String) :
    (folded (filled text)).toList = text.toList.map standard := by
  rw [folded, filled, String.toList_map, String.toList_map, List.map_map]
  refine List.map_congr_left fun c _ => ?_
  by_cases sign : c = '+'
  · subst sign
    decide
  · simp [standard, sign]

/-- A text without plus signs stays as it is. -/
theorem filled_eq_self (unsigned : '+' ∉ text.toList) : filled text = text := by
  refine String.toList_injective ?_
  rw [filled, String.toList_map]
  calc
    text.toList.map _ = text.toList.map id :=
      List.map_congr_left fun c member => if_neg (ne_of_mem_of_not_mem member unsigned)
    _ = text.toList := List.map_id _

/-- Neither plus signs nor digits are separators. -/
theorem notMem_of_separates : ∀ mark ∈ separators, mark ∉ '+' :: hexDigits := by
  -- decided for the members of the list, not for all characters
  rw [← List.forall_iff_forall_mem]
  decide

/-- The standard spelling of either separator is the colon. -/
theorem standard_of_separates : ∀ mark ∈ separators, standard mark = ':' := by
  rw [← List.forall_iff_forall_mem]
  decide

/-- No separator is in a group. -/
theorem Group.notMem (own : Group ('+' :: hexDigits) group) (separates : mark ∈ separators) :
    mark ∉ group := by
  obtain ⟨x, lead, y, digit, rfl⟩ := own
  have apart := notMem_of_separates mark separates
  intro inside
  rcases List.mem_cons.mp inside with rfl | last
  · exact apart lead
  · obtain rfl := List.mem_singleton.mp last
    exact apart (List.mem_cons_of_mem _ digit)

/-- Groups of two digits are those without a plus sign. -/
theorem group_hexDigits_iff :
    Group hexDigits group ↔ '+' ∉ group ∧ Group ('+' :: hexDigits) group := by
  constructor
  · rintro ⟨x, lead, y, digit, rfl⟩
    have unsigned : '+' ∉ hexDigits := by decide
    refine ⟨?_, x, List.mem_cons_of_mem _ lead, y, digit, rfl⟩
    simp [(ne_of_mem_of_not_mem lead unsigned).symm, (ne_of_mem_of_not_mem digit unsigned).symm]
  · rintro ⟨unsigned, x, lead, y, digit, rfl⟩
    rcases List.mem_cons.mp lead with rfl | lead
    · exact absurd List.mem_cons_self unsigned
    · exact ⟨x, lead, y, digit, rfl⟩

/-- The same holds of texts. -/
theorem grouped_hexDigits_iff :
    Grouped hexDigits text ↔ '+' ∉ text.toList ∧ Grouped ('+' :: hexDigits) text := by
  -- a plus sign in the text is one in a group, as it is no separator
  have within : ∀ mark ∈ separators, ∀ groups, text.toList = [mark].intercalate groups →
      ('+' ∉ text.toList ↔ ∀ group ∈ groups, '+' ∉ group) := by
    intro mark separates groups spelt
    have apart : mark ≠ '+' := ne_of_mem_of_not_mem separates (by decide)
    rw [spelt, mem_intercalate_iff apart.symm]
    push Not
    rfl
  constructor
  · rintro ⟨mark, separates, groups, six, own, spelt⟩
    refine ⟨(within mark separates groups spelt).mpr fun group member => ?_,
      mark, separates, groups, six, fun group member => ?_, spelt⟩
    · exact (group_hexDigits_iff.mp (own group member)).1
    · exact (group_hexDigits_iff.mp (own group member)).2
  · rintro ⟨unsigned, mark, separates, groups, six, own, spelt⟩
    refine ⟨mark, separates, groups, six, fun group member => ?_, spelt⟩
    exact group_hexDigits_iff.mpr
      ⟨(within mark separates groups spelt).mp unsigned group member, own group member⟩

/-! ### One octet -/

/-- The value of the first character of an octet. -/
def leading? (c : Char) : Option ℕ := if c = '+' then some 0 else digit? 16 c

theorem octet?_pair (x y : Char) :
    octet? [x, y] = (leading? x).bind fun high => (digit? 16 y).map fun low =>
      UInt8.ofNat (16 * high + low) := by
  unfold octet? leading?
  dsimp only
  split <;> cases digit? 16 y <;> rfl

/-- Every digit has a value, and its standard spelling is the one that is written for the value. -/
theorem exists_digit?_of_mem :
    ∀ c ∈ hexDigits, ∃ n < 16, digit? 16 c = some n ∧ standard c = Nat.digitChar n := by
  rw [← List.forall_iff_forall_mem]
  decide

/-- In front, the same holds of plus signs. -/
theorem exists_leading?_of_mem :
    ∀ c ∈ '+' :: hexDigits, ∃ n < 16, leading? c = some n ∧ standard c = Nat.digitChar n := by
  rw [← List.forall_iff_forall_mem]
  decide

/-- Nothing else has a value there. -/
theorem mem_of_leading? (read : leading? c = some n) : c ∈ '+' :: hexDigits := by
  unfold leading? at read
  split at read
  · next sign => exact sign ▸ List.mem_cons_self
  · exact List.mem_cons_of_mem _ (mem_hexDigits read)

/-- The two digits of an octet that is put together from their values. -/
theorem octetText_ofNat {high low : ℕ} (high_lt : high < 16) (low_lt : low < 16) :
    octetText (UInt8.ofNat (16 * high + low)) = [Nat.digitChar high, Nat.digitChar low] := by
  have value : (UInt8.ofNat (16 * high + low)).toNat = 16 * high + low :=
    UInt8.toNat_ofNat_of_lt' (by show _ < 256; omega)
  have upper : (16 * high + low) / 16 = high := by omega
  have lower : (16 * high + low) % 16 = low := by omega
  rw [octetText, value, upper, lower]

/-- A group is read as an octet, and its standard spelling is the text of the octet. -/
theorem Group.exists_octet? (own : Group ('+' :: hexDigits) group) :
    ∃ o, octet? group = some o ∧ group.map standard = octetText o := by
  obtain ⟨x, lead, y, digit, rfl⟩ := own
  obtain ⟨high, high_lt, value, shown⟩ := exists_leading?_of_mem x lead
  obtain ⟨low, low_lt, value', shown'⟩ := exists_digit?_of_mem y digit
  refine ⟨UInt8.ofNat (16 * high + low), ?_, ?_⟩
  · rw [octet?_pair, value, value']
    rfl
  · rw [octetText_ofNat high_lt low_lt, List.map_cons, List.map_singleton, shown, shown']

/-- Nothing else is read as an octet. -/
theorem group_of_octet? (read : octet? group = some o) : Group ('+' :: hexDigits) group := by
  match group with
  | [x, y] =>
    rw [octet?_pair] at read
    obtain ⟨high, lead, rest⟩ := Option.bind_eq_some_iff.mp read
    obtain ⟨low, digit, -⟩ := Option.map_eq_some_iff.mp rest
    exact ⟨x, mem_of_leading? lead, y, mem_hexDigits digit, rfl⟩

/-! ### All octets -/

/-- Groups are read as octets, and their standard spellings are the texts of the octets. -/
theorem exists_octets (own : ∀ group ∈ groups, Group ('+' :: hexDigits) group) :
    ∃ os, groups.mapM octet? = some os ∧ groups.map (List.map standard) = os.map octetText := by
  induction groups with
  | nil => exact ⟨[], rfl, rfl⟩
  | cons group rest ih =>
    obtain ⟨o, read, shown⟩ := (own group List.mem_cons_self).exists_octet?
    obtain ⟨os, read', shown'⟩ := ih fun g member => own g (List.mem_cons_of_mem _ member)
    refine ⟨o :: os, ?_, ?_⟩
    · rw [List.mapM_cons, read, read']
      rfl
    · rw [List.map_cons, List.map_cons, shown, shown']

/-- Nothing else is read as octets. -/
theorem groups_of_octets (read : groups.mapM octet? = some os) :
    groups.length = os.length ∧ ∀ group ∈ groups, Group ('+' :: hexDigits) group := by
  induction groups generalizing os with
  | nil =>
    obtain rfl : [] = os := Option.some.inj read
    exact ⟨rfl, nofun⟩
  | cons group rest ih =>
    simp only [List.mapM_cons, Option.bind_eq_bind, Option.bind_eq_some_iff, Option.pure_def,
      Option.some.injEq] at read
    obtain ⟨o, first, os, behind, rfl⟩ := read
    obtain ⟨size, own⟩ := ih behind
    exact ⟨congrArg (· + 1) size, List.forall_mem_cons.mpr ⟨group_of_octet? first, own⟩⟩

/-! ### Whole texts -/

/-- An address is read if its octets are read between the separators. -/
theorem parse_eq_ok_iff :
    parse text = .ok m ↔
      (text.toList.splitOn (separator text.toList)).mapM octet? = some m.octets := by
  have characters : parse text = .ok m ↔ ofChars? text.toList = some m := by
    unfold parse
    cases ofChars? text.toList <;> simp
  rw [characters, ofChars?]
  constructor
  · intro found
    split at found
    · next a b c d e f read =>
      obtain rfl := Option.some.inj found
      exact read
    · contradiction
  · intro read
    rw [read]
    rfl

theorem separator_mem (cs : List Char) : separator cs ∈ separators := by
  unfold separator
  split <;> decide

/-- The groups of a text are found. -/
theorem splitOn_separator (separates : mark ∈ separators) (several : 1 < groups.length)
    (own : ∀ group ∈ groups, Group ('+' :: hexDigits) group) :
    ([mark].intercalate groups).splitOn (separator ([mark].intercalate groups)) = groups := by
  have found : separator ([mark].intercalate groups) = mark := by
    rcases List.mem_cons.mp separates with rfl | last
    · exact if_pos (mem_intercalate_self several)
    · obtain rfl := List.mem_singleton.mp last
      -- a colon would be in a group
      refine if_neg fun colon => ?_
      obtain ⟨group, member, inside⟩ := (mem_intercalate_iff (by decide)).mp colon
      exact (own group member).notMem (by decide) inside
  rw [found]
  refine List.splitOn_intercalate mark (fun group member => (own group member).notMem separates) ?_
  rintro rfl
  contradiction

/-- A text of groups is read as the address that is written like it in the standard spelling. -/
theorem Grouped.exists_parse (grouped : Grouped ('+' :: hexDigits) text) :
    ∃ m, parse text = .ok m ∧ m.toText = folded (filled text) := by
  obtain ⟨mark, separates, groups, six, own, spelt⟩ := grouped
  obtain ⟨os, read, shown⟩ := exists_octets own
  have size : os.length = 6 := (groups_of_octets read).1.symm.trans six
  match os, size with
  | [a, b, c, d, e, f], _ =>
    -- the separator is found again, and colons take its place in the standard spelling
    refine ⟨⟨a, b, c, d, e, f⟩, parse_eq_ok_iff.mpr ?_, String.toList_injective ?_⟩
    · rw [spelt, splitOn_separator separates (by omega) own]
      exact read
    · rw [toList_folded_filled, spelt, map_intercalate, standard_of_separates mark separates, shown,
        toText, String.toList_ofList]
      rfl

/-- Nothing else is read. -/
theorem grouped_of_parse (read : parse text = .ok m) : Grouped ('+' :: hexDigits) text := by
  obtain ⟨size, own⟩ := groups_of_octets (parse_eq_ok_iff.mp read)
  exact ⟨separator text.toList, separator_mem _, _, size, own, (List.intercalate_splitOn _).symm⟩

/-- The texts that are read are those of six groups, with plus signs or without. -/
theorem exists_parse_iff : (∃ m, parse text = .ok m) ↔ Grouped ('+' :: hexDigits) text := by
  constructor
  · rintro ⟨m, read⟩
    exact grouped_of_parse read
  · intro grouped
    obtain ⟨m, read, -⟩ := grouped.exists_parse
    exact ⟨m, read⟩

-- one hyphen among colons belongs to no group
example : parse "02:00:5e-10:00:0a" = .error (.mac "02:00:5e-10:00:0a") := by rfl

/-- The text of what is read is the standard spelling of the text that was read. -/
theorem toText_of_parse (read : parse text = .ok m) : m.toText = folded (filled text) := by
  obtain ⟨m', read', shown⟩ := (grouped_of_parse read).exists_parse
  obtain rfl := Except.ok.inj (read.symm.trans read')
  exact shown

/-- Different addresses have different texts. -/
theorem toText_inj {a b : MacAddress} : a.toText = b.toText ↔ a = b := by
  constructor
  · intro same
    exact Except.ok.inj ((parse_toText a).symm.trans (same ▸ parse_toText b))
  · rintro rfl
    rfl

/-- A text is read as an address exactly if it consists of six groups of two characters, with colons
between them all or with hyphens.  The second character of a group is a hexadecimal digit and the
first one is a digit or a plus sign; without plus signs, these are the groups of two digits.  What
is read is written as the text in lower case, with colons for hyphens and zeros for plus signs, and
two texts are read as one address exactly if these spellings are the same. -/
theorem spellings_read (s : String) :
    ((∃ m, parse s = .ok m) ↔ Grouped ('+' :: hexDigits) s) ∧
    (Grouped hexDigits s ↔ '+' ∉ s.toList ∧ ∃ m, parse s = .ok m) ∧
    ∀ t a b, parse s = .ok a → parse t = .ok b →
      a.toText = folded (filled s) ∧ (a = b ↔ folded (filled s) = folded (filled t)) ∧
      ('+' ∉ s.toList → '+' ∉ t.toList → (a = b ↔ folded s = folded t)) := by
  refine ⟨exists_parse_iff, ?_, fun t a b read read' => ?_⟩
  · rw [exists_parse_iff]
    exact grouped_hexDigits_iff
  · have same_iff : a = b ↔ folded (filled s) = folded (filled t) := by
      rw [← toText_of_parse read, ← toText_of_parse read', toText_inj]
    refine ⟨toText_of_parse read, same_iff, fun unsigned unsigned' => ?_⟩
    rw [same_iff, filled_eq_self unsigned, filled_eq_self unsigned']

/-- Two spellings of an address that differ in every letter and separator. -/
theorem spellings_read_hull :
    ∃ m, parse "0A-1b-2C-3d-4E-5f" = .ok m ∧ parse "0a:1B:2c:3D:4e:5F" = .ok m ∧
      folded "0A-1b-2C-3d-4E-5f" = folded "0a:1B:2c:3D:4e:5F" ∧
      Grouped hexDigits "0A-1b-2C-3d-4E-5f" := by
  have read : parse "0A-1b-2C-3d-4E-5f" = .ok ⟨0x0a, 0x1b, 0x2c, 0x3d, 0x4e, 0x5f⟩ := by rfl
  have read' : parse "0a:1B:2c:3D:4e:5F" = .ok ⟨0x0a, 0x1b, 0x2c, 0x3d, 0x4e, 0x5f⟩ := by rfl
  obtain ⟨-, grammar, spellings⟩ := spellings_read "0A-1b-2C-3d-4E-5f"
  obtain ⟨-, -, same_iff⟩ := spellings _ _ _ read read'
  refine ⟨_, read, read', ?_, ?_⟩
  · exact (same_iff (by decide) (by decide)).mp rfl
  · exact grammar.mpr ⟨by decide, _, read⟩

/-- A plus sign is read where the grammar has a digit, and the spelling with a zero, which differs
in more than case and separators, is one of the same address. -/
theorem sign_is_read :
    (∃ m, parse "+1:22:33:44:55:66" = .ok m ∧ parse "01:22:33:44:55:66" = .ok m) ∧
      ¬ Grouped hexDigits "+1:22:33:44:55:66" ∧
      folded "+1:22:33:44:55:66" ≠ folded "01:22:33:44:55:66" := by
  refine ⟨⟨⟨0x01, 0x22, 0x33, 0x44, 0x55, 0x66⟩, by rfl, by rfl⟩, fun grouped => ?_, fun same => ?_⟩
  · exact absurd (by decide) (grouped_hexDigits_iff.mp grouped).1
  · have characters := congrArg String.toList same
    rw [folded, folded, String.toList_map, String.toList_map] at characters
    exact absurd characters (by decide)

end MacAddress

end DataplaneSync
