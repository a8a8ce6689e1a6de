import DataplaneSync.Configuration
import DataplaneSync.Snapshot
import DataplaneSync.Yaml.Node

namespace DataplaneSync

/-!
# Loading

Configurations and snapshots from the contents of YAML files.
-/

/-- Why a file could not be loaded. -/
inductive LoadError where
  /-- There is no such file, or it is not text. -/
  | unreadable
  /-- The text is not what it should be. -/
  | malformed
  /-- The configuration makes no sense. -/
  | invalid (cause : ConfigurationError)
  deriving DecidableEq

/-- The value that a YAML text stands for. -/
def ofYaml? {α : Type} (c : Codec α) (text : String) : Option α :=
  (Yaml.Node.parse? text).bind fun n => (c.read n).toOption

/-- The value that the contents of a file stand for, if there are any. -/
def loadYaml {α : Type} (c : Codec α) (contents : Option ByteArray) : Except LoadError α :=
  match contents.bind String.fromUTF8? with
  | none => .error .unreadable
  | some text =>
    match ofYaml? c text with
    | none => .error .malformed
    | some a => .ok a

/-- The valid configuration in the contents of a file. -/
def Configuration.load (contents : Option ByteArray) : Except LoadError Configuration := do
  let c ← loadYaml Configuration.codec contents
  c.validate.mapError .invalid
  pure c

/-- The snapshot in the contents of a file. -/
def Snapshot.load (contents : Option ByteArray) : Except LoadError Snapshot :=
  loadYaml Snapshot.codec contents

end DataplaneSync
