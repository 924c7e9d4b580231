import FeatureCard.Card.Basic
import FeatureCard.Files.Storage

/-!
# Firmware from a file

A card whose firmware is missing or cannot be read is built all the same, but it is disabled.
-/

namespace FeatureCard

open Fm (FmChip)
open Files (FileFault Storage)

structure FirmwareFault where
  path : String
  fault : FileFault
  deriving DecidableEq, Repr

def FirmwareFault.message (f : FirmwareFault) : String :=
  s!"failed to open IMFC ROM image '{f.path}': {f.fault.message}"

variable {m : Type → Type} [Monad m] [Storage m]

def loadFirmware (path : String) : m (Except FirmwareFault ByteArray) := do
  match ← Storage.read path with
  | .error fault => return .error { path, fault }
  | .ok bytes => return .ok bytes

def Config.findFirmware (c : Config) : m (Option ByteArray × List Notice) := do
  match c.firmware with
  | none => return (none, [.firmwareMissing])
  | some path =>
    match ← loadFirmware path with
    | .error f => return (none, [.firmwareUnreadable f.message])
    | .ok bytes => return (some bytes, [])

def Card.ofConfig {κ χ : Type} [FmChip χ] (c : Config) (cpu : κ) (chip : χ) :
    m (Card κ χ × List Notice) := do
  let (firmware, notices) ← c.findFirmware
  return (.assemble c firmware cpu chip, notices ++ Card.assembleNotices c firmware)

end FeatureCard
