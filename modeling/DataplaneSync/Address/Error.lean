namespace DataplaneSync

/-!
# Rejected addresses

The ways in which a text fails to be an address.
-/

/-- Why a text is not the address it should be. -/
inductive AddressError where
  /-- The text is not a MAC address. -/
  | mac (text : String)
  /-- The text before the slash is not an IP address. -/
  | ip (text : String)
  /-- There is no slash, or no length behind it. -/
  | cidr (text : String)
  /-- The length exceeds the width of the address, which is given as text. -/
  | tooLong (length width : Nat) (address : String)
  deriving DecidableEq

/-- The wording of the failure. -/
def AddressError.message : AddressError → String
  | .mac text => s!"invalid MAC address format: {text}"
  | .ip text => s!"invalid IP address format: {text}"
  | .cidr text => s!"invalid IP prefix format: {text}"
  | .tooLong length width address =>
    s!"invalid IP prefix format: prefix length {length} exceeds maximum {width} for {address}"

end DataplaneSync
