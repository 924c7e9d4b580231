import FeatureCard.Config.Document
import FeatureCard.Files.Path
import FeatureCard.Files.Storage

/-!
# Settings from a file

A relative firmware path in a file is meant from the file's directory.
-/

namespace FeatureCard

open Files (FileFault Storage)

def Json.ReadFault.message : Json.ReadFault → String
  | malformed => "the text is not a JSON document"
  | unfinished => "the text ends too early"
  | mistyped => "a value does not fit its place"

inductive LoadFault where
  | file (fault : FileFault)
  | document (fault : DocumentFault)
  deriving DecidableEq, Repr

namespace LoadFault

def message : LoadFault → String
  | file f => "IO error: " ++ f.message
  | document (.unusable f) => "invalid configuration: " ++ f.message
  | document (.unreadable f) => "malformed configuration: " ++ f.message

/-- The message, and the message of what lies under it. -/
def chain (f : LoadFault) : List String :=
  match f with
  | file inner => [f.message, inner.message]
  | document (.unusable _) => [f.message]
  | document (.unreadable inner) => [f.message, inner.message]

end LoadFault

namespace Config

/-- The settings with a relative firmware path made one from `base`. -/
def relativeTo (c : Config) (base : String) : Config :=
  { c with firmware := c.firmware.map (Files.join base) }

def load {m : Type → Type} [Monad m] [Storage m] (path : String) : m (Except LoadFault Config) := do
  match ← Files.readText path with
  | .error f => return .error (.file f)
  | .ok text =>
    match ofDocument text with
    | .error f => return .error (.document f)
    | .ok config => return .ok (config.relativeTo (Files.directoryOf path))

end Config

end FeatureCard
