namespace DataplaneSync

/-!
# Bidirectional forwarding detection

Sessions, authentication keys and the echo source.

* `BfdSession` — has no name; interface and both addresses identify it.
* `BfdKey` — is identified by its number; a dump may leave its secret out.
* `BfdEcho` — the interface whose address is the source of echoes.
-/

/-! ### Sessions -/

/-- The keys that a session uses. -/
structure BfdAuthentication where
  keyId : UInt32 := 0
  advertisedKeyId : UInt32 := 0
  deriving DecidableEq

/-- A single-hop session.  Intervals are in microseconds. -/
structure BfdSession where
  interface : String := ""
  source : String := ""
  destination : String := ""
  enabled : Bool := true
  minTxInterval : UInt32 := 1000000
  minRxInterval : UInt32 := 1000000
  detectMultiplier : UInt32 := 3
  authentication : Option BfdAuthentication := none
  deriving DecidableEq

namespace BfdSession

instance : Inhabited BfdSession := ⟨{}⟩

/-- Whether two sessions have the same interface and addresses. -/
def sameEndpoints (s t : BfdSession) : Bool :=
  s.interface == t.interface && s.source == t.source && s.destination == t.destination

/-- Whether the actual session has to be modified to become the wanted one with the same
endpoints. -/
def differs (wanted actual : BfdSession) : Bool :=
  wanted.enabled != actual.enabled || wanted.minTxInterval != actual.minTxInterval ||
    wanted.minRxInterval != actual.minRxInterval ||
    wanted.detectMultiplier != actual.detectMultiplier ||
    wanted.authentication != actual.authentication

/-- The endpoints of a session as one text. -/
def key (s : BfdSession) : String := s!"{s.interface}|{s.source}|{s.destination}"

end BfdSession

/-! ### Authentication keys -/

/-- How messages are authenticated. -/
inductive BfdAlgorithm where
  | keyedSha1
  | meticulousKeyedSha1
  deriving DecidableEq

/-- An authentication key. -/
structure BfdKey where
  name : String := ""
  id : UInt32 := 0
  algorithm : BfdAlgorithm := .keyedSha1
  secret : String := ""
  deriving DecidableEq

namespace BfdKey

instance : Inhabited BfdKey := ⟨{}⟩

/-- The name under which the key of a number is registered. -/
def registryName (id : UInt32) : String := s!"auth-key-{id.toNat}"

/-- Whether the actual key has to be modified to become the wanted one with the same number.
The secret is compared if it is reported. -/
def differs (wanted actual : BfdKey) : Bool :=
  wanted.algorithm != actual.algorithm ||
    (actual.secret != "" && wanted.secret != actual.secret)

end BfdKey

/-! ### Echo source -/

/-- The wish that the address of an interface is the source of echoes. -/
structure BfdEcho where
  name : String := ""
  sourceInterface : String := ""
  deriving DecidableEq

instance : Inhabited BfdEcho := ⟨{}⟩

end DataplaneSync
