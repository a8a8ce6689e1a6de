import DataplaneSync.Address.Cidr
import DataplaneSync.Interface.Basic

namespace DataplaneSync.Interface

/-!
# Correlation of untagged interfaces

Which wanted interface an untagged interface of the dataplane stands for.

* `sameAddress` — two texts that spell one interface address; a text that spells none is the
  same as no other, itself included.
* `addressesIn` — every wanted address is among those at hand.
* `correlates` — the hardware addresses agree where one is wanted, or else as many addresses
  are at hand as are wanted and all wanted ones are among them.
-/

/-- Whether both texts spell the same interface address. -/
def sameAddress (wanted actual : String) : Bool :=
  match Cidr.ofText? wanted, Cidr.ofText? actual with
  | some c, some d => c == d
  | _, _ => false

/-- Whether every wanted address is among the actual ones. -/
def addressesIn (wanted actual : List String) : Bool :=
  wanted.all fun w => actual.any fun a => sameAddress w a

/-- Whether as many addresses are at hand as are wanted, and all wanted ones are among them. -/
def addressesAgree (wanted actual : List String) : Bool :=
  wanted.length == actual.length && addressesIn wanted actual

/-- Whether the wanted interface insists on a hardware address, and the actual one has it. -/
def macAgrees (actual wanted : Interface) : Bool :=
  match wanted.pinnedMac? with
  | some m => actual.mac == some m
  | none => false

/-- Whether an untagged interface most likely stands for the wanted one. -/
def correlates (actual wanted : Interface) : Bool :=
  macAgrees actual wanted || addressesAgree wanted.addresses actual.addresses

end DataplaneSync.Interface
