import DataplaneSync.Address.Ip
import DataplaneSync.Proofs.NumeralTexts

namespace DataplaneSync

/-!
# Texts of IP addresses

An address of either version is read back from its text.

* `Ipv4Address.read?_toChars` — the address at the start of a text; `Ipv4Address.read?_eq_none` says
  that there is none in a text without points.
* `Ipv6Address.longestZeroRun_spec` — what stands before, in and behind the longest run of zeros.
* `Ipv6Address.readRun_groupsText` — a run of groups is read up to where it ends.
* `Ipv6Address.read?_compressed`, `Ipv6Address.read?_mapped` — both forms of an IPv6 address.
* `IpAddress.ofChars?_toChars` — addresses of either version.
-/

open Text

/-! ### Version 4 -/

namespace Ipv4Address

variable {rest cs : List Char}

/-- An octet is read back from its digits. -/
theorem octet?_decimal (o : UInt8) (stops : Stops 10 rest) :
    octet? (decimal o.toNat ++ rest) = some (o, rest) := by
  have small := o.toNat_lt
  have all : ∀ c ∈ decimal o.toNat, isDigitOf 10 c = true :=
    fun c member => isDigitOf_of_mem (by decide) (by decide) member
  have short : (decimal o.toNat).length ≤ 3 :=
    (Nat.length_toDigits_le_iff (by decide) (by decide)).mpr (by omega)
  have plain : (decimal o.toNat).length = 1 ∨ (decimal o.toNat).head? ≠ some '0' := by
    rcases Nat.eq_zero_or_pos o.toNat with zero | positive
    · exact Or.inl (by rw [zero]; rfl)
    · exact Or.inr (head?_toDigits (by decide) (by decide) positive)
  have value : value? 10 (decimal o.toNat) = some o.toNat :=
    value?_toDigits (by decide) (by decide) o.toNat
  simp only [octet?, takeWhile_digits all stops, dropWhile_digits all stops]
  rw [if_pos ⟨short, plain⟩, value, Option.bind_some, if_pos (by omega), UInt8.ofNat_toNat]

/-- An address is read back from the start of a text. -/
theorem read?_toChars (x : Ipv4Address) (stops : Stops 10 rest) :
    read? (x.toChars ++ rest) = some (x, rest) := by
  have text : x.toChars ++ rest = decimal x.a.toNat ++ '.' :: (decimal x.b.toNat ++ '.' ::
      (decimal x.c.toNat ++ '.' :: (decimal x.d.toNat ++ rest))) := by
    simp [toChars, List.intercalate]
  have point : ∀ more, Stops 10 ('.' :: more) := fun _ => stops_cons.mpr (by decide)
  rw [text, read?]
  simp [octet?_decimal, point?, point, stops]

/-- Behind an octet stands what follows the digits. -/
theorem rest_of_octet? {o : UInt8} (octet : octet? cs = some (o, rest)) :
    rest = cs.dropWhile (isDigitOf 10) := by
  simp only [octet?, Option.ite_none_right_eq_some, Option.bind_eq_some_iff, Option.some.injEq,
    Prod.mk.injEq] at octet
  obtain ⟨-, -, -, -, -, same⟩ := octet
  exact same.symm

/-- There is no address at the start of a text that has no points. -/
theorem read?_eq_none (plain : '.' ∉ cs) : read? cs = none := by
  cases octet : octet? cs with
  | none => simp [read?, octet]
  | some found =>
    obtain ⟨o, rest⟩ := found
    have point : point? rest = none := by
      -- what stands behind an octet is part of the text
      unfold point?
      split
      · next more =>
        have behind := rest_of_octet? octet
        exact absurd ((List.dropWhile_suffix _).subset (behind ▸ List.mem_cons_self)) plain
      · rfl
    simp [read?, octet, point]

end Ipv4Address

/-! ### Runs of zeros -/

namespace Ipv6Address

/-- The zeros at the start are zeros. -/
theorem leadingZeros_spec (gs : List UInt16) :
    gs = List.replicate (leadingZeros gs) 0 ++ gs.drop (leadingZeros gs) := by
  induction gs with
  | nil => rfl
  | cons g gs ih =>
    unfold leadingZeros
    split
    · next zero =>
      rw [List.replicate_succ, List.drop_succ_cons, List.cons_append, ← ih, zero]
    · rfl

/-- What stands before, in and behind the longest run of zeros. -/
theorem longestZeroRun_spec (gs : List UInt16) :
    gs = gs.take (longestZeroRun gs).1 ++ List.replicate (longestZeroRun gs).2 0 ++
      gs.drop ((longestZeroRun gs).1 + (longestZeroRun gs).2) := by
  induction gs with
  | nil => rfl
  | cons g gs ih =>
    unfold longestZeroRun
    dsimp only
    split
    · rw [List.take_zero, List.nil_append, Nat.zero_add]
      exact leadingZeros_spec (g :: gs)
    · rw [List.take_succ_cons, Nat.add_right_comm, List.drop_succ_cons, List.cons_append,
        List.cons_append, ← ih]

/-! ### Groups -/

variable {n : ℕ} {first : Bool} {g : UInt16} {gs : List UInt16} {cs rest : List Char}

/-- The text of groups, each with a colon before it. -/
def separated (gs : List UInt16) : List Char := gs.flatMap fun g => ':' :: hexadecimal g.toNat

theorem separated_cons (g : UInt16) (gs : List UInt16) :
    separated (g :: gs) = ':' :: (hexadecimal g.toNat ++ separated gs) := rfl

/-- The text of groups is that of the first one, with the others behind it. -/
theorem groupsText_cons (g : UInt16) (gs : List UInt16) :
    groupsText (g :: gs) = hexadecimal g.toNat ++ separated gs := by
  induction gs generalizing g with
  | nil => simp [groupsText, separated]
  | cons h gs ih =>
    have joined : groupsText (g :: h :: gs) = hexadecimal g.toNat ++ [':'] ++ groupsText (h :: gs) :=
      List.intercalate_cons_cons
    rw [joined, ih h, separated_cons, List.append_assoc, List.singleton_append]

/-- A group is read back from its digits. -/
theorem group?_hexadecimal (g : UInt16) (stops : Stops 16 rest) :
    group? (hexadecimal g.toNat ++ rest) = some (g, rest) := by
  have small := g.toNat_lt
  have all : ∀ c ∈ hexadecimal g.toNat, isDigitOf 16 c = true :=
    fun c member => isDigitOf_of_mem (by decide) (by decide) member
  have short : (hexadecimal g.toNat).length ≤ 4 :=
    (Nat.length_toDigits_le_iff (by decide) (by decide)).mpr (by omega)
  have value : value? 16 (hexadecimal g.toNat) = some g.toNat :=
    value?_toDigits (by decide) (by decide) g.toNat
  simp only [group?, takeWhile_digits all stops, dropWhile_digits all stops]
  rw [if_pos short, value, Option.map_some, UInt16.ofNat_toNat]

/-- Where no digit stands there is no group. -/
theorem group?_eq_none (stops : Stops 16 rest) : group? rest = none := by
  have digits : rest.takeWhile (isDigitOf 16) = [] :=
    takeWhile_digits (List.forall_mem_nil _) stops
  simp [group?, digits, value?]

/-- The digits of a group are no points. -/
theorem point_notMem_hexadecimal (m : ℕ) : '.' ∉ hexadecimal m :=
  notMem_toDigits (by decide) (by decide) (by decide)

theorem point_notMem_separated (gs : List UInt16) : '.' ∉ separated gs := by
  induction gs with
  | nil => exact List.not_mem_nil
  | cons g gs ih => simp [separated_cons, point_notMem_hexadecimal, ih]

theorem point_notMem_groupsText (gs : List UInt16) : '.' ∉ groupsText gs := by
  cases gs with
  | nil => exact List.not_mem_nil
  | cons g gs =>
    simp [groupsText_cons, point_notMem_hexadecimal, point_notMem_separated]

/-! ### Runs of groups -/

/-- A run of groups ends with the text, or where two colons stand. -/
structure Ends (rest : List Char) : Prop where
  cut : rest = [] ∨ ∃ more, rest = ':' :: ':' :: more
  plain : '.' ∉ rest

theorem ends_nil : Ends [] := ⟨Or.inl rfl, List.not_mem_nil⟩

/-- No digit stands where a run ends, and none behind its groups. -/
theorem Ends.stops (ends : Ends rest) (gs : List UInt16) : Stops 16 (separated gs ++ rest) := by
  cases gs with
  | nil =>
    rcases ends.cut with rfl | ⟨more, rfl⟩
    · exact stops_nil
    · exact stops_cons.mpr (by decide)
  | cons g gs =>
    rw [separated_cons, List.cons_append]
    exact stops_cons.mpr (by decide)

/-- A run reads a group where one stands, unless an IPv4 address does. -/
theorem readRun_group (body : behindSeparator? first cs = some (hexadecimal g.toNat ++ rest))
    (stops : Stops 16 rest) (undotted : Ipv4Address.read? (hexadecimal g.toNat ++ rest) = none) :
    readRun (n + 1) first cs =
      ⟨g :: (readRun n false rest).groups, (readRun n false rest).dotted,
        (readRun n false rest).rest⟩ := by
  rw [readRun, body]
  simp [undotted, group?_hexadecimal g stops]

/-- A run reads nothing where it ends. -/
theorem readRun_ends (ends : Ends rest) : readRun n first rest = ⟨[], false, rest⟩ := by
  cases n with
  | zero => rfl
  | succ n =>
    -- what would be the next group starts with no digit
    have nothing : ∀ body, behindSeparator? first rest = some body →
        Ipv4Address.read? body = none ∧ group? body = none := by
      intro body behind
      cases first with
      | true =>
        obtain rfl := Option.some.inj behind
        exact ⟨Ipv4Address.read?_eq_none ends.plain, group?_eq_none (ends.stops [])⟩
      | false =>
        rcases ends.cut with rfl | ⟨more, rfl⟩
        · contradiction
        · obtain rfl := Option.some.inj behind
          exact ⟨Ipv4Address.read?_eq_none (List.not_mem_of_not_mem_cons ends.plain),
            group?_eq_none (stops_cons.mpr (by decide))⟩
    rw [readRun]
    cases behind : behindSeparator? first rest with
    | none => rfl
    | some body =>
      obtain ⟨undotted, ungrouped⟩ := nothing body behind
      simp [undotted, ungrouped]

/-- A run reads further groups up to where it ends. -/
theorem readRun_separated (room : gs.length ≤ n) (ends : Ends rest) :
    readRun n false (separated gs ++ rest) = ⟨gs, false, rest⟩ := by
  induction gs generalizing n with
  | nil => exact readRun_ends ends
  | cons g gs ih =>
    obtain ⟨m, rfl⟩ : ∃ m, n = m + 1 := ⟨n - 1, by simp at room; omega⟩
    have plain : '.' ∉ hexadecimal g.toNat ++ (separated gs ++ rest) := by
      simp [point_notMem_hexadecimal, point_notMem_separated, ends.plain]
    have body : behindSeparator? false (separated (g :: gs) ++ rest) =
        some (hexadecimal g.toNat ++ (separated gs ++ rest)) := by
      rw [separated_cons, List.cons_append, List.append_assoc]
      rfl
    rw [readRun_group body (ends.stops gs) (Ipv4Address.read?_eq_none plain),
      ih (Nat.le_of_succ_le_succ room)]

/-- A run reads groups from the first one up to where it ends. -/
theorem readRun_groupsText (room : gs.length ≤ n) (ends : Ends rest) :
    readRun n true (groupsText gs ++ rest) = ⟨gs, false, rest⟩ := by
  cases gs with
  | nil => exact readRun_ends ends
  | cons g gs =>
    obtain ⟨m, rfl⟩ : ∃ m, n = m + 1 := ⟨n - 1, by simp at room; omega⟩
    have plain : '.' ∉ hexadecimal g.toNat ++ (separated gs ++ rest) := by
      simp [point_notMem_hexadecimal, point_notMem_separated, ends.plain]
    have body : behindSeparator? true (groupsText (g :: gs) ++ rest) =
        some (hexadecimal g.toNat ++ (separated gs ++ rest)) := by
      rw [groupsText_cons, List.append_assoc]
      rfl
    rw [readRun_group body (ends.stops gs) (Ipv4Address.read?_eq_none plain),
      readRun_separated (Nat.le_of_succ_le_succ room) ends]

/-- A run reads groups up to the end of a text. -/
theorem readRun_whole (room : gs.length ≤ n) :
    readRun n true (groupsText gs) = ⟨gs, false, []⟩ := by
  have whole := readRun_groupsText room ends_nil
  rwa [List.append_nil] at whole

/-! ### Whole addresses -/

theorem ofGroups?_groups (x : Ipv6Address) : ofGroups? x.groups = some x := dif_pos x.length_groups

/-- Two colons stand for the zeros that are missing between the groups around them. -/
theorem read?_shortened {x : Ipv6Address} {before behind : List UInt16} {k : ℕ} (some_ : 0 < k)
    (groups : x.groups = before ++ List.replicate k 0 ++ behind) :
    read? (groupsText before ++ [':', ':'] ++ groupsText behind) = some (x, []) := by
  have eight := x.length_groups
  simp only [groups, List.length_append, List.length_replicate] at eight
  have ends : Ends (':' :: ':' :: groupsText behind) :=
    ⟨Or.inr ⟨_, rfl⟩, by simp [point_notMem_groupsText]⟩
  -- the first run ends at the two colons, the second one with the text
  have head : readRun 8 true (groupsText before ++ [':', ':'] ++ groupsText behind) =
      ⟨before, false, ':' :: ':' :: groupsText behind⟩ := by
    rw [List.append_assoc]
    exact readRun_groupsText (by omega) ends
  have tail : readRun (7 - before.length) true (groupsText behind) = ⟨behind, false, []⟩ :=
    readRun_whole (by omega)
  have zeros : 8 - before.length - behind.length = k := by omega
  have short : before.length ≠ 8 := by omega
  simp only [read?, head, tail, zeros, if_neg short, Bool.false_eq_true, if_false]
  rw [← groups, ofGroups?_groups, Option.map_some]

/-- An address is read back from the text with its longest run of zeros shortened. -/
theorem read?_compressed (x : Ipv6Address) : read? (compressed x.groups) = some (x, []) := by
  unfold compressed
  dsimp only
  split
  · next long => exact read?_shortened (by omega) (longestZeroRun_spec x.groups)
  · have head : readRun 8 true (groupsText x.groups) = ⟨x.groups, false, []⟩ :=
      readRun_whole (by rw [x.length_groups])
    simp [read?, head, x.length_groups, ofGroups?_groups]

/-- Two groups hold the IPv4 address that is embedded in them. -/
theorem embed_embedded (high low : UInt16) : embed (embedded high low) = [high, low] := by
  have joined : ∀ g : UInt16, UInt16.ofNat (256 * (UInt8.ofNat (g.toNat / 256)).toNat +
      (UInt8.ofNat g.toNat).toNat) = g := by
    intro g
    have small := g.toNat_lt
    have same : 256 * (UInt8.ofNat (g.toNat / 256)).toNat + (UInt8.ofNat g.toNat).toNat =
        g.toNat := by
      simp only [UInt8.toNat_ofNat']
      omega
    rw [same, UInt16.ofNat_toNat]
  exact congrArg₂ (fun a b => [a, b]) (joined high) (joined low)

/-- An address that embeds an IPv4 address is read back from the text with its dotted form. -/
theorem read?_mapped {x : Ipv6Address} {high low : UInt16}
    (groups : x.groups = [0, 0, 0, 0, 0, 0xffff, high, low]) :
    read? ("::ffff:".toList ++ (embedded high low).toChars) = some (x, []) := by
  -- from the end of the text to its start: the dotted form, the group before it, the two colons
  have dotted : readRun 6 false (':' :: (embedded high low).toChars) =
      ⟨[high, low], true, []⟩ := by
    have address := Ipv4Address.read?_toChars (embedded high low) stops_nil
    rw [List.append_nil] at address
    rw [readRun]
    simp [behindSeparator?, address, embed_embedded]
  have tail : readRun 7 true ("ffff:".toList ++ (embedded high low).toChars) =
      ⟨[0xffff, high, low], true, []⟩ := by
    have body : behindSeparator? true ("ffff:".toList ++ (embedded high low).toChars) =
        some (hexadecimal (0xffff : UInt16).toNat ++ ':' :: (embedded high low).toChars) := rfl
    rw [readRun_group body (stops_cons.mpr (by decide)) rfl, dotted]
  have head : readRun 8 true ("::ffff:".toList ++ (embedded high low).toChars) =
      ⟨[], false, ':' :: ':' :: ("ffff:".toList ++ (embedded high low).toChars)⟩ := rfl
  simp only [read?, head, List.length_nil, tail]
  show (ofGroups? [0, 0, 0, 0, 0, 0xffff, high, low]).map (fun x => (x, [])) = some (x, [])
  rw [← groups, ofGroups?_groups, Option.map_some]

/-- An address is read back from its text. -/
theorem read?_toChars (x : Ipv6Address) : read? x.toChars = some (x, []) := by
  unfold toChars
  split
  · next high low groups => exact read?_mapped groups
  · exact read?_compressed x

/-- No IPv4 address stands at the start of the text of an IPv6 address. -/
theorem undotted_toChars (x : Ipv6Address) : Ipv4Address.read? x.toChars = none := by
  unfold toChars
  split
  · rfl
  · -- only the form with an embedded IPv4 address has points
    refine Ipv4Address.read?_eq_none ?_
    unfold compressed
    dsimp only
    split
    · simp [point_notMem_groupsText]
    · exact point_notMem_groupsText _

end Ipv6Address

/-! ### Either version -/

/-- An address of either version is read back from its text. -/
theorem IpAddress.ofChars?_toChars (x : IpAddress) : ofChars? x.toChars = some x := by
  cases x with
  | v4 x =>
    have whole := Ipv4Address.read?_toChars x stops_nil
    rw [List.append_nil] at whole
    simp [toChars, ofChars?, read?, whole]
  | v6 x => simp [toChars, ofChars?, read?, x.undotted_toChars, x.read?_toChars]

end DataplaneSync
