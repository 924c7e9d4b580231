import FeatureCard.Card.Basic
import FeatureCard.Decimal.Writing
import FeatureCard.Text.Visible

/-!
# Descriptions

A card as a line of text, for people who look for faults. A record is written as its name and its
named fields.
-/

namespace FeatureCard

open Fm (FmChip FmPort)
open Midi (Usart)

namespace Describe

def record (name : String) (fields : List (String × String)) : String :=
  name ++ " \x7b " ++ ", ".intercalate (fields.map fun f => f.1 ++ ": " ++ f.2) ++ " \x7d"

def list (items : List String) : String := "[" ++ ", ".intercalate items ++ "]"

def optional {α : Type} (describe : α → String) : Option α → String
  | none => "None"
  | some a => "Some(" ++ describe a ++ ")"

def bool (b : Bool) : String := if b then "true" else "false"

def byte (b : UInt8) : String := toString b.toNat

def hexadecimal (n : Nat) : String := "0x" ++ String.ofList (Nat.toDigits 16 n)

def character (c : Char) : String :=
  if c = '"' then "\\\""
  else if c = '\\' then "\\\\"
  else if c = '\x00' then "\\0"
  else if c = '\t' then "\\t"
  else if c = '\n' then "\\n"
  else if c = '\x0d' then "\\r"
  else if Text.isVisible c then String.singleton c
  else "\\u\x7b" ++ String.ofList (Nat.toDigits 16 c.toNat) ++ "\x7d"

def text (t : String) : String := "\"" ++ String.join (t.toList.map character) ++ "\""

end Describe

open Describe (record list optional bool byte hexadecimal text)

def Config.describe (c : Config) : String :=
  record "CardConfig"
    [("base_port", toString c.basePort.toNat), ("irq", byte c.irq),
      ("sample_rate", toString c.sampleRate.toNat), ("firmware", optional text c.firmware)]

def Mailbox.describe (m : Mailbox) : String :=
  record "Handshake"
    [("data", byte m.data), ("ready", bool m.ready), ("rx_int_enabled", bool m.rxGate),
      ("tx_int_enabled", bool m.txGate)]

def Midi.Usart.describe (u : Usart) : String :=
  let bytes := record "Mutex" [("data", list (u.fifo.bytes.map byte))]
  record "MidiPort"
    [("queue", record "MidiQueue" [("bytes", bytes)]), ("command", byte u.command),
      ("setup_remaining", toString u.setupLeft)]

def Counter.describe (c : Counter) : String :=
  record "PitChannel"
    [("mode", byte c.mode), ("latch", toString c.latch.toNat), ("load_state", toString c.loadState)]

def TimerBlock.describe (t : TimerBlock) : String :=
  let period (p : Option Period) : String := optional (fun p => Decimal.plain p.millis) p
  record "TimerPair"
    [("channels", list (t.counters.toList.map Counter.describe)), ("period_a", period t.periodA),
      ("period_b", period t.periodB)]

def HostInterrupt.controlNames : List (String × UInt8) :=
  [("ACK_A", 0x01), ("ACK_B", 0x02), ("ENABLE_A", 0x04), ("ENABLE_B", 0x08), ("MIDI_MASK", 0x10),
    ("IRQ_GATE", 0xC0)]

/-- The names of the groups of which all bits are set, and the bits in no such group. -/
def HostInterrupt.describeControl (tcr : UInt8) : String :=
  let whole := controlNames.filter fun g => tcr &&& g.2 = g.2
  let rest := whole.foldl (fun left g => left &&& ~~~g.2) tcr
  let names := whole.map (·.1) ++ if rest = 0 then [] else [hexadecimal rest.toNat]
  if names = [] then hexadecimal 0 else " | ".intercalate names

def HostInterrupt.describe (h : HostInterrupt) : String :=
  record "HostIrq"
    [("irq", byte h.irq), ("tcr", "TimerControl(" ++ describeControl h.tcr ++ ")"),
      ("pending", byte h.pending), ("delivered", bool h.delivered)]

def Fm.FmPort.describe {χ : Type} [FmChip χ] (p : FmPort χ) : String :=
  let latch := match p.latch with
    | none => "Unlatched"
    | some register => "Latched(" ++ byte register ++ ")"
  record "FmPort"
    [("latch", latch), ("frames", toString p.frames), ("position", toString p.position),
      ("rendered", toString p.rendered)]

def Device.describe {χ : Type} [FmChip χ] (d : Device χ) : String :=
  record "CardState"
    [("host_to_card", d.piu.hostToCard.describe), ("card_to_host", d.piu.cardToHost.describe),
      ("extra_flag", bool d.piu.extra), ("midi", d.usart.describe), ("timers", d.timers.describe),
      ("irq", d.interrupt.describe), ("fm", d.fm.describe)]

def RenderStats.describe (s : RenderStats) : String :=
  record "RenderStats"
    [("frames", toString s.frames), ("instructions", toString s.instructions),
      ("int_asserted_steps", toString s.attentionSteps),
      ("interrupts_taken", toString s.interruptsTaken), ("cycles", toString s.cycles)]

def Memory.describe (m : Memory) : String :=
  record "MemoryImage" [("rom_len", toString m.rom.size), ("ram_len", toString m.ram.size)]

def Card.describe {κ χ : Type} [FmChip χ] (c : Card κ χ) : String :=
  record "MusicCard"
    [("config", c.config.describe), ("enabled", bool c.enabled), ("state", c.device.describe),
      ("int_line", bool c.attention), ("stats", c.stats.describe)]

end FeatureCard
