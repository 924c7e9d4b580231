import FeatureCard.Card.Firmware
import FeatureCard.Config.Load
import FeatureCard.Fm.OpmTimers
import FeatureCard.Renderer.LogFilter
import FeatureCard.Renderer.Options
import FeatureCard.Renderer.Report
import FeatureCard.Renderer.Session
import FeatureCard.Renderer.Wave
import FeatureCard.Z80.Processor

/-!
# The renderer

Builds a card from the options, lets it run for the time asked for and writes a sound file. All that
is told goes to one channel: complaints about the arguments and help, or else the log and, if the
run fails, the reason.
-/

namespace FeatureCard.Renderer

open Fm (OpmTimers)
open Files (Storage)

structure Outcome where
  code : Nat := 0
  told : List String := []
  deriving DecidableEq, Repr

def chipHertz : UInt32 := 4000000

/-- Work that keeps a log and can fail. -/
abbrev Work (m : Type → Type) := ExceptT Failure (StateT (Array LogLine) m)

variable {m : Type → Type} [Monad m]

namespace Work

def note (line : LogLine) : Work m Unit := modify (·.push line)

def notes (notices : Array Notice) : Work m Unit := modify (· ++ notices.map Notice.line)

def attempt {ε α : Type} (failure : ε → Failure) (action : m (Except ε α)) : Work m α := do
  match ← (StateT.lift action : StateT (Array LogLine) m (Except ε α)) with
  | .ok a => return a
  | .error e => throw (failure e)

def counted {α : Type} (result : Checked α) : Work m α :=
  match result with
  | .ok a => return a
  | .error f => throw { message := f.message, code := 101 }

def rendered {α : Type} (result : Except Breakdown α) : Work m α :=
  match result with
  | .ok a => return a
  | .error b => do
    notes b.notices.toArray
    counted (.error b.fault)

end Work

open Work

variable [Storage m]

/-- The settings that the options lead to: from a file, or the defaults, with the firmware and the
rate of the options put over them. -/
def settings (p : Options) : Work m Config := do
  let config ← match p.config with
    | none => pure {}
    | some path =>
      attempt (fun f => { message := s!"loading configuration {path}", causes := f.chain })
        (Config.load path)
  return { config with
    firmware := p.rom <|> config.firmware
    sampleRate := p.rate.getD config.sampleRate }

def midiBytes (p : Options) : Work m (Option (List UInt8)) := do
  match p.midi with
  | none => return none
  | some path =>
    let bytes ← attempt
      (fun f => { message := s!"reading MIDI stream {path}", causes := [f.message] })
      (Storage.read path)
    note (Progress.streaming bytes.size path).line
    return some bytes.toList

def work (p : Options) : Work m Unit := do
  let config ← settings p
  let (card, notices) ← (Card.ofConfig config Z80.powerOn (OpmTimers.powerOn chipHertz) : m _)
  notes notices.toArray
  if !card.enabled then note Progress.noFirmware.line
  let midi ← midiBytes p
  let s ← rendered (Session.render { card, midi := midi.getD [] } p.seconds)
  notes s.notices
  note (Progress.rendered s.instructions s.host.raised s.host.now.toFloat).line
  if let some bytes := midi then
    note (Progress.delivered (bytes.length - s.midi.length)).line
  let rate := card.clock.rate
  let file ← counted (Wave.encode rate s.frames)
  attempt (fun f => { message := s!"creating {p.out}", causes := [f.message] })
    (Storage.write p.out file)
  note (Progress.wrote s.frames.size rate p.out).line

def run (arguments : List String) (filter : String) : m Outcome := do
  let (filter, bad) := LogFilter.ofText filter
  let warnings := bad.map FilterFault.message
  let parsed := parse arguments
  let complaints := warnings ++ parsed.complaints.map Complaint.message
  if parsed.options.help then return { told := complaints ++ helpLines }
  else
    let (result, log) ← (work parsed.options).run.run #[]
    let told := complaints ++ (log.filter filter.shows).toList.map LogLine.shown
    match result with
    | .ok () => return { told }
    | .error f => return { code := f.code, told := told ++ f.lines }

def Outcome.text (o : Outcome) : String := String.join (o.told.map (· ++ "\n"))

end FeatureCard.Renderer
