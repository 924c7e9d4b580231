/-!
# Reading and writing files

What can go wrong with a file, and the two things that the program does with files.
-/

namespace FeatureCard.Files

inductive FileFault where
  | missing
  | notDirectory
  | isDirectory
  | nameTooLong
  /-- A name cannot hold the character that ends names. -/
  | zeroInName
  | notText
  /-- Another failure, with the system's number and word for it. -/
  | other (code : Nat) (reason : String)
  deriving DecidableEq, Repr

namespace FileFault

def numbered (code : Nat) (reason : String) : String := s!"{reason} (os error {code})"

def message : FileFault → String
  | missing => numbered 2 "No such file or directory"
  | notDirectory => numbered 20 "Not a directory"
  | isDirectory => numbered 21 "Is a directory"
  | nameTooLong => numbered 36 "File name too long"
  | zeroInName => "file name contained an unexpected NUL byte"
  | notText => "stream did not contain valid UTF-8"
  | other code reason => numbered code reason

end FileFault

class Storage (m : Type → Type) where
  read : (path : String) → m (Except FileFault ByteArray)
  write : (path : String) → ByteArray → m (Except FileFault Unit)

def readText {m : Type → Type} [Monad m] [Storage m] (path : String) :
    m (Except FileFault String) := do
  match ← Storage.read path with
  | .error f => return .error f
  | .ok bytes =>
    match String.fromUTF8? bytes with
    | none => return .error .notText
    | some text => return .ok text

end FeatureCard.Files
