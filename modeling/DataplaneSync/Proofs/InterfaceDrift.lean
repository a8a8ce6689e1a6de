import DataplaneSync.Interface.Difference
import Mathlib.Data.List.Perm.Subperm

namespace DataplaneSync

/-!
# Drift of interfaces

What an interface of the dataplane is like that differs in nothing from the wanted one.  Not all
settings are compared; the wanted interface is completed by those of the actual one that are not.
If nothing differs, the actual interface is the completed one as a whole, so no setting besides the
named ones can have been overlooked.

* `MemifLink.completedBy`, `TapLink.completedBy`, `Interface.completedBy` — what is not compared.
* `Interface.firstDifference_eq_none_iff` — when nothing differs.
* `Interface.perm_of_addressesAgree` — when addresses that agree are the wanted ones.
* `Interface.no_drift_of_firstDifference`, `Interface.firstDifference_overlooks` — what is then
  known of the actual interface, and what is not.
-/

/-! ### Links -/

/-- Links are compared as a whole. -/
theorem AfPacketLink.differs_eq_false_iff {w a : AfPacketLink} : differs w a = false ↔ w = a := by
  cases w
  cases a
  simp [differs]

/-- Links are compared as a whole. -/
theorem VxlanLink.differs_eq_false_iff {w a : VxlanLink} : differs w a = false ↔ w = a := by
  cases w
  cases a
  simp only [differs, Bool.or_eq_false_iff, bne_eq_false_iff_eq, VxlanLink.mk.injEq]
  tauto

/-- The wanted link, with the settings of the actual one that the dataplane does not report. -/
def MemifLink.completedBy (wanted actual : MemifLink) : MemifLink :=
  { wanted with
    secret := actual.secret
    ringSize := actual.ringSize
    bufferSize := actual.bufferSize }

theorem MemifLink.differs_eq_false_iff {w a : MemifLink} :
    differs w a = false ↔ w.completedBy a = a := by
  cases w
  cases a
  simp only [differs, completedBy, Bool.or_eq_false_iff, bne_eq_false_iff_eq, MemifLink.mk.injEq]
  tauto

/-- The wanted link, with the version of the actual one unless version 2 is wanted. -/
def TapLink.completedBy (wanted actual : TapLink) : TapLink :=
  { wanted with version := if wanted.version = 2 then wanted.version else actual.version }

theorem TapLink.differs_eq_false_iff {w a : TapLink} :
    differs w a = false ↔ w.completedBy a = a := by
  cases w
  cases a
  simp only [differs, completedBy, Bool.or_eq_false_iff, Bool.and_eq_false_iff, beq_eq_false_iff_ne,
    bne_eq_false_iff_eq, TapLink.mk.injEq]
  split <;> tauto

/-- A wanted link, if there is one, completed by the actual one, if there is one. -/
def completeLink {α : Type} (complete : α → α → α) : Option α → Option α → Option α
  | some w, some a => some (complete w a)
  | w, _ => w

namespace Interface

variable {w a : Interface}

/-- The links of interfaces of the given type differ unless one of them is the other completed. -/
theorem linkDiffers_eq_false_iff {α : Type} {type : InterfaceType} {link : Interface → Option α}
    {differs : α → α → Bool} {complete : α → α → α}
    (same : ∀ w a, differs w a = false ↔ complete w a = a) :
    linkDiffers type link differs w a = false ↔
      (w.type = type → completeLink complete (link w) (link a) = link a) := by
  rw [linkDiffers]
  by_cases own : w.type = type
  · cases link w <;> cases link a <;> simp [own, completeLink, same]
  · simp [own]

/-- So do links that are compared as a whole, unless they are equal. -/
theorem linkDiffers_eq_false_iff_eq {α : Type} {type : InterfaceType}
    {link : Interface → Option α} {differs : α → α → Bool}
    (same : ∀ w a, differs w a = false ↔ w = a) :
    linkDiffers type link differs w a = false ↔ (w.type = type → link w = link a) := by
  rw [@linkDiffers_eq_false_iff w a α type link differs (fun w _ => w) same]
  cases link w <;> cases link a <;> simp [completeLink]

/-! ### What is not compared -/

/-- The wanted interface, with all that is not compared as the actual one has it. -/
def completedBy (wanted actual : Interface) : Interface :=
  { wanted with
    name := actual.name
    mtu := if wanted.type = .vxlanTunnel then actual.mtu else wanted.mtu
    mac := if wanted.pinnedMac?.isSome then wanted.mac else actual.mac
    addresses := actual.addresses
    unnumbered := actual.unnumbered
    afPacket := if wanted.type = .afPacketInterface then wanted.afPacket else actual.afPacket
    memif := if wanted.type = .memoryInterface then
      completeLink MemifLink.completedBy wanted.memif actual.memif else actual.memif
    tap := if wanted.type = .tapInterface then
      completeLink TapLink.completedBy wanted.tap actual.tap else actual.tap
    vxlan := if wanted.type = .vxlanTunnel then wanted.vxlan else actual.vxlan }

/-- The wanted interface completed is the actual one if all that is compared is equal. -/
theorem completedBy_eq_iff : w.completedBy a = a ↔
    w.type = a.type ∧ w.enabled = a.enabled ∧ w.vrf = a.vrf ∧
    w.containerAddress = a.containerAddress ∧ w.dhcpClient = a.dhcpClient ∧
    (w.type ≠ .vxlanTunnel → w.mtu = a.mtu) ∧ (w.pinnedMac?.isSome = true → w.mac = a.mac) ∧
    w.rxSettings = a.rxSettings ∧ (w.type = .afPacketInterface → w.afPacket = a.afPacket) ∧
    (w.type = .memoryInterface →
      completeLink MemifLink.completedBy w.memif a.memif = a.memif) ∧
    (w.type = .tapInterface → completeLink TapLink.completedBy w.tap a.tap = a.tap) ∧
    (w.type = .vxlanTunnel → w.vxlan = a.vxlan) := by
  cases a
  simp only [completedBy, Interface.mk.injEq, ite_eq_left_iff, ite_eq_right_iff, true_and, ne_eq]

/-- An interface completed by itself stays as it is. -/
theorem completedBy_self (i : Interface) : i.completedBy i = i := by
  have memif : completeLink MemifLink.completedBy i.memif i.memif = i.memif := by
    cases i.memif <;> rfl
  have tap : completeLink TapLink.completedBy i.tap i.tap = i.tap := by
    cases i.tap <;> simp [completeLink, TapLink.completedBy]
  simp [completedBy_eq_iff, memif, tap]

/-! ### What is compared -/

theorem mtuDiffers_eq_false_iff : (w.type != .vxlanTunnel && w.mtu != a.mtu) = false ↔
    (w.type ≠ .vxlanTunnel → w.mtu = a.mtu) := by
  simp

theorem macDiffers_eq_false_iff : (w.pinnedMac?.isSome && !macAgrees a w) = false ↔
    (w.pinnedMac?.isSome = true → w.mac = a.mac) := by
  cases pinned : w.pinnedMac? with
  | none => simp
  | some m =>
    have own : w.mac = some m := (Option.filter_eq_some_iff.mp pinned).1
    simp only [macAgrees, pinned, own, Option.isSome_some, Bool.true_and, Bool.not_eq_false',
      beq_iff_eq, forall_const]
    exact eq_comm

/-- An unnumbered interface wants no addresses, so none are wrong. -/
theorem addressesDiffer_eq_false_iff : addressesDiffer w a = false ↔
    (w.unnumbered = none → addressesAgree w.addresses a.assignedAddresses = true) := by
  rw [addressesDiffer, Bool.and_eq_false_imp, Option.isNone_iff_eq_none, Bool.not_eq_false']

/-- Nothing differs if and only if the wanted interface completed is the actual one and the
addresses agree unless none are wanted. -/
theorem firstDifference_eq_none_iff : firstDifference w a = none ↔
    w.completedBy a = a ∧
      (w.unnumbered = none → addressesAgree w.addresses a.assignedAddresses = true) := by
  rw [firstDifference, List.find?_eq_none, completedBy_eq_iff, ← addressesDiffer_eq_false_iff]
  simp only [Aspect.all, List.forall_mem_cons, Aspect.differs, Bool.not_eq_true,
    bne_eq_false_iff_eq, mtuDiffers_eq_false_iff, macDiffers_eq_false_iff,
    linkDiffers_eq_false_iff_eq fun _ _ => AfPacketLink.differs_eq_false_iff,
    linkDiffers_eq_false_iff fun _ _ => MemifLink.differs_eq_false_iff,
    linkDiffers_eq_false_iff fun _ _ => TapLink.differs_eq_false_iff,
    linkDiffers_eq_false_iff_eq fun _ _ => VxlanLink.differs_eq_false_iff]
  constructor
  · rintro ⟨type, enabled, vrf, container, dhcp, mtu, mac, addresses, rx, afPacket, memif, tap,
      vxlan, -⟩
    exact ⟨⟨type, enabled, vrf, container, dhcp, mtu, mac, rx, afPacket, memif, tap, vxlan⟩,
      addresses⟩
  · rintro ⟨⟨type, enabled, vrf, container, dhcp, mtu, mac, rx, afPacket, memif, tap, vxlan⟩,
      addresses⟩
    exact ⟨type, enabled, vrf, container, dhcp, mtu, mac, addresses, rx, afPacket, memif, tap,
      vxlan, List.forall_mem_nil _⟩

/-! ### Addresses -/

/-- Two texts spell the same address if both spell one, and it is the same. -/
theorem sameAddress_iff {s t : String} : sameAddress s t = true ↔
    ∃ c, Cidr.ofText? s = some c ∧ Cidr.ofText? t = some c := by
  rw [sameAddress]
  cases Cidr.ofText? s with
  | none => simp
  | some c =>
    cases Cidr.ofText? t with
    | none => simp
    | some d => simpa using eq_comm

/-- Addresses agree if there are as many, and each wanted one is there. -/
theorem addressesAgree_iff {wanted actual : List String} : addressesAgree wanted actual = true ↔
    wanted.length = actual.length ∧
      ∀ s ∈ wanted, ∃ t ∈ actual, ∃ c, Cidr.ofText? s = some c ∧ Cidr.ofText? t = some c := by
  simp only [addressesAgree, addressesIn, Bool.and_eq_true, beq_iff_eq, List.all_eq_true,
    List.any_eq_true, sameAddress_iff]

/-- If no address is wanted twice, those that agree with the wanted ones are the wanted ones in some
order. -/
theorem perm_of_addressesAgree {wanted actual : List String}
    (agrees : addressesAgree wanted actual = true) (once : (wanted.map Cidr.ofText?).Nodup) :
    (actual.map Cidr.ofText?).Perm (wanted.map Cidr.ofText?) := by
  obtain ⟨asMany, there⟩ := addressesAgree_iff.mp agrees
  have among : wanted.map Cidr.ofText? ⊆ actual.map Cidr.ofText? := by
    intro value member
    obtain ⟨s, wants, rfl⟩ := List.mem_map.mp member
    obtain ⟨t, has, c, spells, spells'⟩ := there s wants
    exact List.mem_map.mpr ⟨t, has, spells'.trans spells.symm⟩
  have size : (actual.map Cidr.ofText?).length ≤ (wanted.map Cidr.ofText?).length := by
    rw [List.length_map, List.length_map]
    exact Nat.le_of_eq asMany.symm
  exact ((once.subperm among).perm_of_length_le size).symm

/-! ### Drift -/

/-- If nothing differs, the actual interface is the wanted one but for what is not compared: its
name, what it is unnumbered to, the MTU of a VXLAN tunnel, a hardware address where none is
insisted on, what the dataplane does not report of a memif link, the version of a TAP link unless
version 2 is wanted, and the links of other types.

Unless the wanted interface is unnumbered, there are as many addresses as are wanted besides those
that the dataplane assigns itself, and all wanted ones are spelt there; if none is wanted twice, the
addresses are the wanted ones in some order. -/
theorem no_drift_of_firstDifference (same : firstDifference w a = none) :
    a = w.completedBy a ∧
    (w.unnumbered = none →
      w.addresses.length = a.assignedAddresses.length ∧
      (∀ s ∈ w.addresses, ∃ t ∈ a.assignedAddresses,
        ∃ c, Cidr.ofText? s = some c ∧ Cidr.ofText? t = some c) ∧
      ((w.addresses.map Cidr.ofText?).Nodup →
        (a.assignedAddresses.map Cidr.ofText?).Perm (w.addresses.map Cidr.ofText?))) := by
  obtain ⟨completed, addresses⟩ := firstDifference_eq_none_iff.mp same
  refine ⟨completed.symm, fun numbered => ?_⟩
  have agrees := addresses numbered
  obtain ⟨asMany, there⟩ := addressesAgree_iff.mp agrees
  exact ⟨asMany, there, perm_of_addressesAgree agrees⟩

/-- A link between two rooms, as it is wanted. -/
def hatch : Interface where
  name := "hatch"
  type := .memoryInterface
  enabled := true
  mtu := 1500
  mac := some ⟨0, 0, 0, 0, 0, 0⟩
  addresses := ["10.0.0.1/24", "2001:db8::1/64"]
  memif := some { id := 3, socket := "/run/memif.sock", secret := "s3cret", ringSize := 1024 }

/-- As it is dumped: without tag, with another hardware address and a link-local address, its
addresses in another order, and without what is not reported of its link. -/
def hatchDumped : Interface :=
  { hatch with
    name := ""
    mac := some ⟨2, 0, 0, 0, 0, 1⟩
    addresses := ["fe80::1/64", "2001:0db8::0001/64", "10.0.0.1/24"]
    memif := some { id := 3, socket := "/run/memif.sock" } }

/-- All of this is no difference, and the two addresses are the wanted ones. -/
theorem no_drift_of_firstDifference_hatch :
    firstDifference hatch hatchDumped = none ∧ hatchDumped = hatch.completedBy hatchDumped ∧
      (hatchDumped.assignedAddresses.map Cidr.ofText?).Perm
        (hatch.addresses.map Cidr.ofText?) := by
  have same : firstDifference hatch hatchDumped = none := by decide +kernel
  obtain ⟨completed, addresses⟩ := no_drift_of_firstDifference same
  have once : (hatch.addresses.map Cidr.ofText?).Nodup := by decide +kernel
  exact ⟨same, completed, (addresses rfl).2.2 once⟩

/-- It is no difference either if an interface is unnumbered that should not be, or not unnumbered
that should be, or if it has another address in place of one that is wanted twice. -/
theorem firstDifference_overlooks :
    let cellar : Interface := { name := "cellar" }
    let unnumbered : Interface := { cellar with unnumbered := some { interface := "loop0" } }
    let twice : Interface := { cellar with addresses := ["10.0.0.1/24", "10.0.0.1/24"] }
    let other : Interface := { cellar with addresses := ["10.0.0.1/24", "10.0.0.2/24"] }
    (firstDifference unnumbered cellar = none ∧ firstDifference cellar unnumbered = none ∧
      unnumbered.unnumbered ≠ cellar.unnumbered) ∧
    firstDifference twice other = none ∧
      ¬ (other.assignedAddresses.map Cidr.ofText?).Perm (twice.addresses.map Cidr.ofText?) := by
  decide +kernel

end Interface

end DataplaneSync
