import FeatureCard.Arithmetic
import FeatureCard.Fm.Chip

/-!
# Sound files

A RIFF file of 16-bit stereo samples: 44 bytes of header, then the frames, all numbers with the
low byte first.
-/

namespace FeatureCard.Renderer

open Fm (Frame)

namespace Wave

/-- A number in `count` bytes, the lowest first. -/
def bytesOf (count n : Nat) : List UInt8 :=
  (List.range count).map fun i => (n >>> (8 * i)).toUInt8

def tag (letters : String) : List UInt8 := letters.toList.map fun c => c.toNat.toUInt8

def channels : Nat := 2

def sampleBytes : Nat := 2

def frameBytes : Nat := channels * sampleBytes

def headerRest : Nat := 36

/-- The header for so many frames. The number of bytes per second has to fit its field. -/
def header (rate frames : Nat) : Checked (List UInt8) := do
  let perSecond ← mulBelow word32 rate frameBytes
  let size := frames * frameBytes
  return tag "RIFF" ++ bytesOf 4 (headerRest + size) ++ tag "WAVE" ++
    tag "fmt " ++ bytesOf 4 16 ++ bytesOf 2 1 ++ bytesOf 2 channels ++ bytesOf 4 rate ++
    bytesOf 4 perSecond ++ bytesOf 2 frameBytes ++ bytesOf 2 (8 * sampleBytes) ++
    tag "data" ++ bytesOf 4 size

def pushSample (bytes : ByteArray) (sample : Int16) : ByteArray :=
  let word := sample.toUInt16
  (bytes.push word.toUInt8).push (word >>> 8).toUInt8

def pushFrame (bytes : ByteArray) (f : Frame) : ByteArray :=
  pushSample (pushSample bytes f.left) f.right

def encode (rate : Nat) (frames : Array Frame) : Checked ByteArray := do
  let head ← header rate frames.size
  return frames.foldl pushFrame ⟨head.toArray⟩

end Wave

end FeatureCard.Renderer
