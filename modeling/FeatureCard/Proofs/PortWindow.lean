import FeatureCard.Proofs.GuardedLife

/-!
# The window of ports

A port is in the window if its distance from the first port, as a word, is less than sixteen. An
access to it is then one to the devices at this distance; an access elsewhere finds the open bus and
changes nothing. But the distance is taken by a difference that fails below the first port. So where
the window runs over the end of the address space, which a valid configuration rules out, accesses
to the ports beyond the end fail.
-/

namespace FeatureCard

open Fm (FmChip)

namespace Card

variable {κ χ : Type}

/-! ## The distance from the first port -/

theorem offsetOf_of_le (c : Card κ χ) {port : UInt16} (h : c.config.basePort ≤ port) :
    c.offsetOf port = .ok (port - c.config.basePort).toUInt8 := by
  have hoffset : (port.toNat - c.config.basePort.toNat).toUInt8 =
      (port - c.config.basePort).toUInt8 := by
    rw [← UInt16.toNat_sub_of_le _ _ h]
    rfl
  unfold offsetOf
  rw [subtract_of_le (UInt16.le_iff_toNat_le.1 h), ← hoffset]
  rfl

theorem offsetOf_of_lt (c : Card κ χ) {port : UInt16} (h : port < c.config.basePort) :
    c.offsetOf port = .error .difference := by
  unfold offsetOf subtract
  rw [if_neg (Nat.not_le.2 (UInt16.lt_iff_toNat_lt.1 h))]
  rfl

theorem not_valid_of_wrapped {config : Config} {port : UInt16} (hport : config.decodes port = true)
    (hlt : port < config.basePort) : config.validate ≠ .ok () := by
  intro hvalid
  have hroom := Config.room_of_validate hvalid
  have hwindow := of_decide_eq_true hport
  have hbelow := UInt16.lt_iff_toNat_lt.1 hlt
  have hdistance := UInt16.toNat_sub port config.basePort
  simp only [Config.portCount] at hroom hwindow
  omega

/-! ## What an access does -/

theorem guarded_of_sequenced {c : Card κ χ} (h : c.device.timers.Sequenced) (port : UInt16)
    (value : UInt8) :
    c.read? port = (c.read port).toOption ∧
      c.write? port value = (c.write port value).toOption := by
  unfold read? read write? write
  cases c.config.decodes port with
  | false => exact ⟨rfl, rfl⟩
  | true =>
    cases c.offsetOf port with
    | error fault => exact ⟨rfl, rfl⟩
    | ok offset =>
      have hread := c.device.hostRead?_eq offset
      have hwrite := Device.hostWrite?_eq h offset value
      simp only [if_true, Except.toOption, bind, Option.bind, hread, hwrite]
      exact ⟨rfl, rfl⟩

end Card

/-- An access of the host to the port, to read it or to write `value`. -/
structure Card.PortAnswers {κ χ : Type} (c : Card κ χ) (port : UInt16)
    (value : UInt8) : Prop where
  /-- No other operation on the way can fail. -/
  guarded : c.read? port = (c.read port).toOption ∧
    c.write? port value = (c.write port value).toOption
  outside : c.config.decodes port = false →
    c.read port = .ok (0xFF, c, [.note (.hostReadOutside port)]) ∧
      c.write port value = .ok (c, [.note (.hostWriteOutside port)])
  inside : c.config.decodes port = true → c.config.basePort ≤ port →
    let offset := (port - c.config.basePort).toUInt8
    port - c.config.basePort < 16 ∧
      c.read port =
        .ok ((c.device.hostRead offset).1, { c with device := (c.device.hostRead offset).2.1 },
          (c.device.hostRead offset).2.2) ∧
      c.write port value =
        .ok ({ c with device := (c.device.hostWrite offset value).1 },
          (c.device.hostWrite offset value).2)
  wrapped : c.config.decodes port = true → port < c.config.basePort →
    c.read port = .error .difference ∧ c.write port value = .error .difference ∧
      c.config.validate ≠ .ok ()

namespace Card

variable {κ χ : Type} [Processor κ] [FmChip χ]

theorem sequenced_kept : Device.Kept fun (d : Device χ) _ => d.timers.Sequenced where
  event d told e h := by
    rw [(d.turns e .a).timers]
    exact h.react e
  fm _ _ _ h := h
  note _ _ _ h := h

theorem sequenced_live {c c' : Card κ χ} (h : c.device.timers.Sequenced) {events : List CardEvent}
    (hl : c.live events = .ok c') : c'.device.timers.Sequenced := by
  induction events generalizing c with
  | nil => exact Except.ok.inj hl ▸ h
  | cons e events ih =>
    obtain ⟨answer, c₁, effects, hp, hlater⟩ := live_cons.1 hl
    refine ih ?_ hlater
    apply sequenced_kept.perform h hp
    -- Whatever was told before.
    exact []

end Card

/-- Whatever the configuration and the life of a card, an access of the host reaches the devices or
finds the open bus, unless its port lies in the window but below the first port. -/
theorem ports_answer_unless_wrapped {κ χ : Type} [Processor κ] [FmChip χ] (config : Config)
    (firmware : Option ByteArray) (cpu : κ) (chip : χ) (life : List CardEvent) (c : Card κ χ)
    (hlive : (Card.assemble config firmware cpu chip).live life = .ok c) (port : UInt16)
    (value : UInt8) : c.config = config ∧ c.PortAnswers port value := by
  have hsequenced : c.device.timers.Sequenced := Card.sequenced_live .powerOn hlive
  refine ⟨(Card.Alike.live hlive).config, ?_⟩
  constructor
  case guarded => exact Card.guarded_of_sequenced hsequenced port value
  case outside =>
    intro hport
    simp only [Card.read, Card.write, hport]
    exact ⟨rfl, rfl⟩
  case inside =>
    intro hport hle
    refine ⟨UInt16.lt_iff_toNat_lt.2 (of_decide_eq_true hport), ?_, ?_⟩
    · simp only [Card.read, hport, if_true, c.offsetOf_of_le hle]
      rfl
    · simp only [Card.write, hport, if_true, c.offsetOf_of_le hle]
      rfl
  case wrapped =>
    intro hport hlt
    refine ⟨?_, ?_, Card.not_valid_of_wrapped hport hlt⟩
    · simp only [Card.read, hport, if_true, c.offsetOf_of_lt hlt]
      rfl
    · simp only [Card.write, hport, if_true, c.offsetOf_of_lt hlt]
      rfl

/-- Beyond the end of the address space and before it, on a card that has received a byte. -/
theorem ports_answer_unless_wrapped_at_the_end :
    let config : Config := { basePort := 0xFFF8 }
    let start : Card ScriptedCpu Fm.LevelChip := Card.assemble config none {} {}
    ∃ c, start.live [.midi [0xF8], .timerExpired .a] = .ok c ∧
      (c.config = config ∧ c.PortAnswers 0 0x80) ∧ c.config = config ∧ c.PortAnswers 0xFFFF 0x80 := by
  intro config start
  have hlive : start.live [.midi [0xF8], .timerExpired .a] =
      .ok ((start.enqueue [0xF8]).2.1.timerExpired .a).1 := rfl
  exact ⟨_, hlive, ports_answer_unless_wrapped config none {} {} _ _ hlive 0 0x80,
    ports_answer_unless_wrapped config none {} {} _ _ hlive 0xFFFF 0x80⟩

/-- Port 0 is the last of a window that begins at port 65521. The devices would answer with the
timer status, but the access fails. -/
theorem last_port_fails_beyond_the_end :
    let config : Config := { basePort := 0xFFF1 }
    let c : Card ScriptedCpu Fm.LevelChip := Card.assemble config none {} {}
    config.decodes 0 = true ∧ 0 - config.basePort = 15 ∧ (c.device.hostRead 15).1 = 0x7C ∧
      c.read 0 = .error .difference ∧ c.write 0 0 = .error .difference := by
  intro config c
  refine ⟨by decide, by decide, by decide, rfl, rfl⟩

end FeatureCard
