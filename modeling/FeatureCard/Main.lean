import FeatureCard.Renderer.Program

/-!
# The command

Hands the arguments, the log filter and the files of the system to the renderer.
-/

namespace FeatureCard.Renderer

open Files (FileFault Storage)

def faultOf : IO.Error → FileFault
  | .alreadyExists _ code reason
  | .invalidArgument _ code reason
  | .permissionDenied _ code reason
  | .resourceExhausted _ code reason
  | .inappropriateType _ code reason
  | .noSuchThing _ code reason => .other code.toNat reason
  | .noFileOrDirectory _ code reason
  | .interrupted _ code reason => .other code.toNat reason
  | .otherError code reason
  | .resourceBusy code reason
  | .resourceVanished code reason
  | .unsupportedOperation code reason
  | .hardwareFault code reason
  | .unsatisfiedConstraints code reason
  | .illegalOperation code reason
  | .protocolError code reason
  | .timeExpired code reason => .other code.toNat reason
  | .unexpectedEof => .other 0 "unexpected end of file"
  | .userError reason => .other 0 reason

instance : Storage IO where
  read path := do
    try return .ok (← IO.FS.readBinFile path)
    catch e => return .error (faultOf e)
  write path bytes := do
    try return .ok (← IO.FS.writeBinFile path bytes)
    catch e => return .error (faultOf e)

end FeatureCard.Renderer

def main (arguments : List String) : IO UInt32 := do
  let filter := (← IO.getEnv "RUST_LOG").getD ""
  let outcome : FeatureCard.Renderer.Outcome ← FeatureCard.Renderer.run arguments filter
  (← IO.getStderr).putStr outcome.text
  return outcome.code.toUInt32
