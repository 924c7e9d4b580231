import FeatureCard.Proofs.Byte
import FeatureCard.Proofs.History
import FeatureCard.Proofs.Hosts
import FeatureCard.ScriptedCpu

/-!
# The interrupt line follows its sources

At every moment of a card's history the level that the host was told is the one that the gate, the
pending timers and the mailboxes ask for, and the host has heard of it by calls that raise and lower
the line in turn.
-/

namespace FeatureCard

open Fm (FmChip)
open Hosts (Detached Offline Instant)

/-! ## Calls in turn -/

/-- `n` calls on a line that raise and lower it in turn, beginning with a raise. -/
def swings (irq : UInt8) (n : Nat) : List (HostCall Period) :=
  (List.range n).map fun i => .line irq (i % 2 == 0)

theorem swings_succ (irq : UInt8) (n : Nat) :
    swings irq (n + 1) = swings irq n ++ [.line irq (n % 2 == 0)] := by
  rw [swings, List.range_succ, List.map_append]
  rfl

theorem swings_getLast? (irq : UInt8) (n : Nat) :
    (swings irq n).getLast? = some (.raise irq) ↔ n % 2 = 1 := by
  cases n with
  | zero => simp [swings]
  | succ n =>
    rw [swings_succ, List.getLast?_concat, Option.some.injEq]
    rcases Nat.mod_two_eq_zero_or_one n with h | h <;> simp [HostCall.line, h] <;> omega

theorem toldLevel_of_swings {calls : List (HostCall Period)} {irq : UInt8} {n : Nat}
    (h : calls.filter HostCall.isLine = swings irq n) :
    Hosts.toldLevel calls = decide (n % 2 = 1) := by
  unfold Hosts.toldLevel
  rw [h]
  cases n with
  | zero => rfl
  | succ n =>
    rw [swings_succ, List.getLast?_concat]
    rcases Nat.mod_two_eq_zero_or_one n with h | h <;> simp [HostCall.line, h] <;> omega

/-! ## What every event keeps -/

/-- The line has its number and its level, and the host has heard of all its changes in turn. -/
structure Device.InStep {χ : Type} (irq : UInt8) (d : Device χ) (told : List Effect) : Prop where
  number : d.interrupt.irq = irq
  level : d.Level
  inTurn : ∃ n, Effect.lineCalls told = swings irq n ∧
    d.interrupt.delivered = decide (n % 2 = 1)

namespace Device.InStep

variable {χ : Type} {irq : UInt8}

theorem powerOn [FmChip χ] (irq : UInt8) (chip : χ) : (Device.powerOn irq chip).InStep irq [] where
  number := rfl
  level := by
    have hgate : (Device.powerOn irq chip).interrupt.gateOpen = false := by
      change ((0 : UInt8) &&& 0xC0 == 0xC0) = false
      decide
    rw [Level, HostInterrupt.level, hgate]
    rfl
  inTurn := ⟨0, rfl, rfl⟩

theorem settle {d changed : Device χ} {told : List Effect} (h : d.InStep irq told)
    (hirq : changed.interrupt.irq = d.interrupt.irq)
    (hdelivered : changed.interrupt.delivered = d.interrupt.delivered) :
    changed.settle.1.InStep irq (told ++ changed.settle.2) where
  number := hirq.trans h.number
  level := changed.settle_level
  inTurn := by
    obtain ⟨n, hcalls, hn⟩ := h.inTurn
    rw [Effect.lineCalls_append, hcalls, changed.settle_lineCalls, hdelivered, hirq, h.number]
    by_cases hsame : changed.settle.1.interrupt.delivered = d.interrupt.delivered
    · refine ⟨n, ?_, hsame.trans hn⟩
      rw [if_pos hsame, List.append_nil]
    · have hflip : changed.settle.1.interrupt.delivered = !decide (n % 2 = 1) := by
        rw [← hn]
        exact Bool.eq_not_of_ne hsame
      refine ⟨n + 1, ?_, ?_⟩
      · rw [if_neg hsame, swings_succ, hflip]
        rcases Nat.mod_two_eq_zero_or_one n with h | h <;> simp [h]
      · rw [hflip]
        rcases Nat.mod_two_eq_zero_or_one n with h | h <;> simp [h] <;> omega

theorem event [FmChip χ] {d : Device χ} {told : List Effect} (h : d.InStep irq told)
    (e : DeviceEvent) : (d.after e).InStep irq (told ++ d.effectsOf e) := by
  rcases d.perform_cases e with hq | ⟨changed, hs⟩
  · constructor
    · rw [hq.interrupt, h.number]
    · rw [Level, hq.interrupt, hq.piu]
      exact h.level
    · rw [Effect.lineCalls_append, hq.lineCalls, List.append_nil, hq.interrupt]
      exact h.inTurn
  · have hc := h.settle hs.irq hs.delivered
    constructor
    · rw [hs.after, hc.number]
    · rw [hs.after]
      exact hc.level
    · rw [Effect.lineCalls_append, hs.lineCalls, ← Effect.lineCalls_append, hs.after]
      exact hc.inTurn

theorem kept [FmChip χ] (irq : UInt8) : Device.Kept (χ := χ) (Device.InStep irq) where
  event _ _ e h := h.event e
  fm _ _ _ h := ⟨h.number, h.level, h.inTurn⟩
  note d told notice h := by
    refine ⟨h.number, h.level, ?_⟩
    rw [Effect.lineCalls_append]
    simpa [Effect.lineCalls] using h.inTurn

end Device.InStep

/-! ## The line at every moment -/

/-- What holds of the line with number `irq` at a moment. -/
structure Moment.LineFollows {χ : Type} [FmChip χ] (irq : UInt8) (m : Moment χ) : Prop where
  delivered_iff : m.device.interrupt.delivered = true ↔
    m.device.interrupt.tcr &&& 0xC0 = 0xC0 ∧
      (m.device.interrupt.pending ≠ 0 ∨
        (m.device.piu.hostToCard.ready = false ∧ m.device.piu.hostToCard.txGate = true) ∨
        (m.device.piu.cardToHost.ready = true ∧ m.device.piu.cardToHost.rxGate = true))
  /-- The host can tell it from a read of the timer status. -/
  status_iff : ∀ offset : UInt8, 0x0C ≤ offset &&& 0x0F →
    (m.device.interrupt.delivered = true ↔
      m.device.interrupt.tcr &&& 0xC0 = 0xC0 ∧ (m.device.hostRead offset).1 &&& 0x80 = 0x80)
  calls : ∃ n, Effect.lineCalls m.told = swings irq n
  last : (Effect.lineCalls m.told).getLast? = some (.raise irq) ↔
    m.device.interrupt.delivered = true
  /-- Hosts of both kinds know the level, whatever they did on their own. -/
  detached : ∀ {τ : Type} (span : Period → τ) (h : Detached τ),
    Detached.Attached span (Effect.calls m.told) h →
      h.irqActive = m.device.interrupt.delivered
  offline : ∀ {τ : Type} [Instant τ] (span : Period → τ) (h : Offline τ),
    Offline.Attached span (Effect.calls m.told) h →
      h.irqActive = m.device.interrupt.delivered

namespace HostInterrupt

theorem gateOpen_iff (h : HostInterrupt) : h.gateOpen = true ↔ h.tcr &&& 0xC0 = 0xC0 := by
  simp [gateOpen, gateBits]

theorem level_iff (h : HostInterrupt) (mailboxes : Bool) :
    h.level mailboxes = true ↔ h.tcr &&& 0xC0 = 0xC0 ∧ (h.pending ≠ 0 ∨ mailboxes = true) := by
  simp [level, requested, gateOpen_iff]

theorem status_iff (h : HostInterrupt) (mailboxes : Bool) :
    h.status mailboxes &&& 0x80 = 0x80 ↔ h.pending ≠ 0 ∨ mailboxes = true := by
  have hreq : h.requested mailboxes = true ↔ h.pending ≠ 0 ∨ mailboxes = true := by
    simp [requested]
  rw [← hreq]
  unfold status
  cases hr : h.requested mailboxes with
  | true => simp [or_and_cancel_top]
  | false =>
    have hpending : h.pending = 0 := by
      refine Decidable.byContradiction fun hne => ?_
      rw [hreq.2 (.inl hne)] at hr
      exact Bool.noConfusion hr
    rw [hpending]
    exact iff_of_false (by decide) Bool.noConfusion

end HostInterrupt

theorem Piu.hostInterrupt_iff (p : Piu) :
    p.hostInterrupt = true ↔
      (p.hostToCard.ready = false ∧ p.hostToCard.txGate = true) ∨
        (p.cardToHost.ready = true ∧ p.cardToHost.rxGate = true) := by
  simp [hostInterrupt, Mailbox.txInterrupt, Mailbox.rxInterrupt]

theorem ofOffset_timerStatus (offset : UInt8) (h : 0x0C ≤ offset &&& 0x0F) :
    PortMap.HostRead.ofOffset offset = .timerStatus := by
  revert offset
  exact forall_byte (by decide +kernel)

theorem Device.InStep.lineFollows {χ : Type} [FmChip χ] {irq : UInt8} {m : Moment χ}
    (h : m.device.InStep irq m.told) : m.LineFollows irq := by
  obtain ⟨n, hcalls, hn⟩ := h.inTurn
  have htold : Hosts.toldLevel (Effect.calls m.told) = m.device.interrupt.delivered := by
    rw [toldLevel_of_swings hcalls, hn]
  constructor
  case delivered_iff =>
    rw [h.level, HostInterrupt.level_iff, Piu.hostInterrupt_iff]
  case status_iff =>
    intro offset ho
    have hread : (m.device.hostRead offset).1 =
        m.device.interrupt.status m.device.piu.hostInterrupt := by
      simp only [Device.hostRead, Device.answerHost, ofOffset_timerStatus offset ho]
    rw [hread, HostInterrupt.status_iff, h.level, HostInterrupt.level_iff]
  case calls => exact ⟨n, hcalls⟩
  case last => rw [hcalls, swings_getLast?, hn, decide_eq_true_iff]
  case detached =>
    intro τ span host hh
    rw [hh.irqActive, htold]
  case offline =>
    intro τ _ span host hh
    rw [hh.irqActive, htold]

/-- At every moment of the life of a card, the line follows its sources and the host knows it. -/
theorem line_follows_sources {κ χ : Type} [Processor κ] [FmChip χ] (config : Config)
    (firmware : Option ByteArray) (cpu : κ) (chip : χ) (events : List CardEvent) :
    ∀ m ∈ (Card.assemble config firmware cpu chip).history [] events, m.LineFollows config.irq := by
  intro m hm
  have hstart : (Card.assemble config firmware cpu chip).device.InStep config.irq [] :=
    Device.InStep.powerOn config.irq chip
  exact ((Device.InStep.kept config.irq).history hstart events m hm).lineFollows

/-- The host opens the gate for its empty mailbox, and then the one for its line. -/
theorem line_follows_sources_raised :
    let c : Card ScriptedCpu Fm.LevelChip := Card.assemble {} none {} {}
    ∃ m ∈ c.history [] [.write 0x2A23 0x05, .write 0x2A28 0xC0],
      m.device.interrupt.delivered = true ∧ m.LineFollows c.config.irq := by
  intro c
  have hlevels : (c.history [] [.write 0x2A23 0x05, .write 0x2A28 0xC0]).map
      (fun m => m.device.interrupt.delivered) = [false, true] := by
    decide +kernel
  have hraised : true ∈ (c.history [] [.write 0x2A23 0x05, .write 0x2A28 0xC0]).map
      (fun m => m.device.interrupt.delivered) := by
    rw [hlevels]
    decide
  obtain ⟨m, hm, hdelivered⟩ := List.mem_map.1 hraised
  have hfollows := line_follows_sources {} none ({} : ScriptedCpu) ({} : Fm.LevelChip)
    [.write 0x2A23 0x05, .write 0x2A28 0xC0] m hm
  exact ⟨m, hm, hdelivered, hfollows⟩

end FeatureCard
