import FeatureCard.Decimal.Writing
import FeatureCard.Notice

/-!
# What a run tells

How far it has come, and why it stopped if it did not reach its end.
-/

namespace FeatureCard.Renderer

inductive Progress where
  | noFirmware
  | streaming (bytes : Nat) (path : String)
  | rendered (steps interrupts : Nat) (millis : Float)
  | delivered (bytes : Nat)
  | wrote (frames rate : Nat) (path : String)

def secondsText (millis : Float) : String :=
  Decimal.fixed 3 (Decimal.ratOfDouble (millis / 1000.0))

def Progress.line : Progress → LogLine
  | noFirmware => ⟨.warn, "imfc_render", "card has no firmware; output will be silent"⟩
  | streaming bytes path =>
    ⟨.info, "imfc_render", s!"streaming {bytes} MIDI bytes from {path}"⟩
  | rendered steps interrupts millis =>
    ⟨.info, "imfc_render",
      s!"{steps} Z80 steps, {interrupts} host IRQs over {secondsText millis} s"⟩
  | delivered bytes => ⟨.info, "imfc_render", s!"MIDI producer delivered {bytes} bytes"⟩
  | wrote frames rate path =>
    ⟨.info, "imfc_render", s!"wrote {frames} frames at {rate} Hz to {path}"⟩

/-- Why a run stopped: what it was about to do, and what stood in its way, nearest first. -/
structure Failure where
  message : String
  causes : List String := []
  code : Nat := 1
  deriving DecidableEq, Repr

namespace Failure

def causeLine (single : Bool) (cause : String × Nat) : String :=
  if single then "    " ++ cause.1 else s!"    {cause.2}: {cause.1}"

def lines (f : Failure) : List String :=
  ("Error: " ++ f.message) ::
    if f.causes = [] then []
    else "" :: "Caused by:" :: f.causes.zipIdx.map (causeLine (f.causes.length = 1))

end Failure

end FeatureCard.Renderer
