import FeatureCard.Proofs.Block

/-!
# Recording a chip

A card does not notice that the calls to its chip are recorded. So what a step sends to the chip can
be told by recording it, whatever the chip.
-/

namespace FeatureCard

open Fm

/-! ## Maps between buses -/

/-- `f` takes one bus to another, access by access. -/
structure Bus.Hom {σ τ : Type} [Bus σ] [Bus τ] (f : σ → τ) : Prop where
  read : ∀ s address, Bus.read (f s) address = Bus.read s address
  write : ∀ s address value, Bus.write (f s) address value = f (Bus.write s address value)
  input : ∀ s port, Bus.input (f s) port = ((Bus.input s port).1, f (Bus.input s port).2)
  output : ∀ s port value, Bus.output (f s) port value = f (Bus.output s port value)

theorem Bus.Hom.run {σ τ : Type} [Bus σ] [Bus τ] {f : σ → τ} (h : Bus.Hom f) {α : Type}
    (p : BusProgram α) (s : σ) : p.run (f s) = ((p.run s).1, f (p.run s).2) := by
  induction p generalizing s with
  | done a => rfl
  | read address next ih => rw [BusProgram.run, h.read, ih, BusProgram.run]
  | write address value next ih => rw [BusProgram.run, h.write, ih, BusProgram.run]
  | input port next ih => simp only [BusProgram.run, h.input, ih]
  | output port value next ih => rw [BusProgram.run, h.output, ih, BusProgram.run]

/-! ## Maps between chips -/

/-- `f` takes one chip to another, call by call. -/
structure Fm.FmChip.Hom {χ ψ : Type} [FmChip χ] [FmChip ψ] (f : χ → ψ) : Prop where
  write : ∀ c register value, FmChip.write (f c) register value = f (FmChip.write c register value)
  status : ∀ c, FmChip.status (f c) = FmChip.status c
  count : ∀ c micros, FmChip.count (f c) micros = ((FmChip.count c micros).1,
    f (FmChip.count c micros).2)
  mix : ∀ {n : Nat} c (frames : Vector Frame n), FmChip.mix (f c) frames =
    (f (FmChip.mix c frames).1, (FmChip.mix c frames).2)
  writeNotices : ∀ c register value, FmChip.writeNotices (f c) register value =
    FmChip.writeNotices c register value

section Map

variable {κ χ ψ : Type}

def Fm.FmPort.map (f : χ → ψ) (p : FmPort χ) : FmPort ψ where
  chip := f p.chip
  latch := p.latch
  frames := p.frames
  position := p.position
  output := p.output

def Device.map (f : χ → ψ) (d : Device χ) : Device ψ where
  piu := d.piu
  usart := d.usart
  timers := d.timers
  interrupt := d.interrupt
  fm := d.fm.map f

def CardBus.map (f : χ → ψ) (b : CardBus χ) : CardBus ψ where
  memory := b.memory
  device := b.device.map f
  effects := b.effects

def Run.map (f : χ → ψ) (r : Run κ χ) : Run κ ψ where
  bus := r.bus.map f
  cpu := r.cpu
  clock := r.clock
  attention := r.attention
  stats := r.stats
  cursor := r.cursor

def Card.map (f : χ → ψ) (c : Card κ χ) : Card κ ψ where
  config := c.config
  memory := c.memory
  device := c.device.map f
  cpu := c.cpu
  clock := c.clock
  attention := c.attention
  stats := c.stats

theorem Device.control_map (f : χ → ψ) (d : Device χ) (side : Side) (word : UInt8) :
    (d.map f).control side word = ((d.control side word).1.map f, (d.control side word).2) := by
  unfold control
  cases ControlWord.decode side word with
  | mode value supported => cases supported <;> rfl
  | set flag on => rfl
  | unmapped field => rfl

theorem Card.opening_map (f : χ → ψ) (c : Card κ χ) (memory : Memory) (frames : Nat) :
    (c.map f).opening memory frames =
      (c.opening memory frames).map fun opened => (opened.1, opened.2.map f) := by
  have hclock : (c.map f).clock = c.clock := rfl
  unfold opening
  rw [hclock]
  generalize mulBelow word64 frames 2 = size
  generalize c.clock.budget frames = granted
  cases size with
  | error fault => rfl
  | ok size => cases granted <;> rfl

end Map

namespace Fm.FmChip.Hom

variable {κ χ ψ : Type} [FmChip χ] [FmChip ψ] {f : χ → ψ}

theorem flush (h : FmChip.Hom f) (p : FmPort χ) : (p.map f).flush = p.flush.map f := by
  unfold FmPort.flush
  have hiff : (p.map f).position ≤ (p.map f).rendered ↔ p.position ≤ p.rendered := Iff.rfl
  by_cases hp : p.position ≤ p.rendered
  · rw [if_pos (hiff.2 hp), if_pos hp]
  · rw [if_neg fun hf => hp (hiff.1 hf), if_neg hp]
    simp only [FmPort.map, FmPort.rendered, h.mix]

theorem writeData (h : FmChip.Hom f) (p : FmPort χ) (value : UInt8) :
    (p.map f).writeData value = ((p.writeData value).1.map f, (p.writeData value).2) := by
  unfold FmPort.writeData
  rw [h.flush]
  cases hl : p.latch with
  | none => simp only [FmPort.map, hl]
  | some address =>
    cases ht : targetOf address with
    | none => simp only [FmPort.map, hl, ht]
    | some register => simp only [FmPort.map, hl, ht, h.write, h.writeNotices]

theorem cardRead (h : FmChip.Hom f) (d : Device χ) (port : UInt8) :
    (d.map f).cardRead port = ((d.cardRead port).1, (d.cardRead port).2.1.map f,
      (d.cardRead port).2.2) := by
  unfold Device.cardRead Device.answerCard
  cases PortMap.CardRead.ofPort port with
  | fmStatus => simp only [Device.map, FmPort.status, FmPort.map, h.status]
  | midi odd | peekCardToHost | takeHostToCard | piuStatus | unmapped => rfl

theorem cardWrite (h : FmChip.Hom f) (d : Device χ) (port value : UInt8) :
    (d.map f).cardWrite port value = ((d.cardWrite port value).1.map f,
      (d.cardWrite port value).2) := by
  unfold Device.cardWrite Device.acceptCard
  cases PortMap.CardWrite.ofPort port with
  | fmData =>
    have hdata := h.writeData d.fm value
    simp only [Device.map, hdata]
  | piuControl => simp only [Device.control_map]
  | fmAddress | midi odd | putCardToHost | unmapped => rfl

theorem bus (h : FmChip.Hom f) : Bus.Hom (CardBus.map f) where
  read _ _ := rfl
  write _ _ _ := rfl
  input b port := by
    have hread := h.cardRead b.device port
    simp only [Bus.input, CardBus.map, hread]
  output b port value := by
    have hwrite := h.cardWrite b.device port value
    simp only [Bus.output, CardBus.map, hwrite]

theorem settle (h : FmChip.Hom f) (r : Run κ χ) (cost : UInt32) :
    (r.map f).settle cost = (r.settle cost).map (Run.map f) := by
  rw [Run.settle_eq, Run.settle_eq]
  have hcursor : (r.map f).cursor = r.cursor := rfl
  rw [hcursor]
  cases r.cursor.advance cost with
  | error fault => rfl
  | ok moved =>
    obtain ⟨reached, cursor⟩ := moved
    have hreach : Run.reach (r.map f).bus.device.fm reached =
        (Run.reach r.bus.device.fm reached).map (FmPort.map f) := by
      unfold Run.reach
      by_cases hr : 0 < reached
      · rw [if_pos hr, if_pos hr]
        unfold FmPort.advance
        change (addBelow word64 r.bus.device.fm.position reached >>= _) = _
        cases addBelow word64 r.bus.device.fm.position reached <;> rfl
      · rw [if_neg hr, if_neg hr]
        rfl
    simp only [bind, Except.bind, hreach]
    cases Run.reach r.bus.device.fm reached with
    | error fault => rfl
    | ok fm =>
      simp only [Except.map, pure, Except.pure, Run.settled, Run.counted, FmPort.count, FmPort.map,
        h.count, Run.map, CardBus.map, Device.map, Device.attentionLine]

variable [Processor κ]

theorem offer (h : FmChip.Hom f) (r : Run κ χ) :
    (r.map f).offer = (r.offer.1, r.offer.2.map f) := by
  have hrun := h.bus.run (Processor.interrupt r.cpu) r.bus
  unfold Run.offer
  by_cases ha : r.attention = true
  · have ha' : (r.map f).attention = true := ha
    rw [if_pos ha, if_pos ha']
    simp only [Run.map, hrun]
  · have ha' : ¬ (r.map f).attention = true := ha
    rw [if_neg ha, if_neg ha']

theorem execute (h : FmChip.Hom f) (r : Run κ χ) :
    (r.map f).execute = (r.execute.1, r.execute.2.map f) := by
  have hrun := h.bus.run (Processor.step r.cpu) r.bus
  unfold Run.execute
  simp only [Run.map, hrun]

theorem act (h : FmChip.Hom f) (r : Run κ χ) : (r.map f).act = (r.act.1, r.act.2.map f) := by
  unfold Run.act
  rw [h.offer]
  by_cases hc : r.offer.1 = 0
  · simp only [hc, ne_eq, not_true_eq_false, if_false, h.execute]
  · simp only [hc, ne_eq, not_false_eq_true, if_true]

theorem cost (h : FmChip.Hom f) (r : Run κ χ) : (r.map f).cost = r.cost := by
  rw [Run.cost, h.act, Run.cost]

theorem acted (h : FmChip.Hom f) (r : Run κ χ) : (r.map f).acted = r.acted.map f := by
  rw [Run.acted, h.act, Run.acted]

theorem next (h : FmChip.Hom f) (r : Run κ χ) : (r.map f).next = r.next.map (Run.map f) := by
  rw [Run.next, h.acted, h.cost, h.settle, Run.next]

theorem steps (h : FmChip.Hom f) (budget : Int) (r : Run κ χ) :
    (r.map f).steps budget = (r.steps budget).map (Run.map f) := by
  induction budget, r using Run.block_induct with
  | spent budget r hpos =>
    rw [Run.steps_of_not_pos hpos, Run.steps_of_not_pos hpos, List.map_nil]
  | broken budget r fault hpos hn =>
    have hn' : (r.map f).next = .error fault := by rw [h.next, hn]; rfl
    rw [Run.steps_of_error hpos hn', Run.steps_of_error hpos hn, List.map_singleton]
  | settled budget r r' hpos hn ih =>
    have hn' : (r.map f).next = .ok (r'.map f) := by rw [h.next, hn]; rfl
    rw [Run.steps_of_next hpos hn', Run.steps_of_next hpos hn, h.cost, ih, List.map_cons]

theorem spend (h : FmChip.Hom f) (budget : Int) (r : Run κ χ) :
    (r.map f).spend budget = (r.spend budget).map (Run.map f) := by
  induction budget, r using Run.block_induct with
  | spent budget r hpos =>
    rw [Run.spend_of_not_pos hpos, Run.spend_of_not_pos hpos]
    rfl
  | broken budget r fault hpos hn =>
    have hn' : (r.map f).next = .error fault := by rw [h.next, hn]; rfl
    rw [Run.spend_of_error hpos hn', Run.spend_of_error hpos hn, h.acted]
    rfl
  | settled budget r r' hpos hn ih =>
    have hn' : (r.map f).next = .ok (r'.map f) := by rw [h.next, hn]; rfl
    rw [Run.spend_of_next hpos hn', Run.spend_of_next hpos hn, h.cost, ih]

theorem finish (h : FmChip.Hom f) (p : FmPort χ) : (p.map f).finish = p.finish.map f :=
  h.flush { p with position := p.frames }

theorem render (h : FmChip.Hom f) (c : Card κ χ) (frames : Nat) :
    (c.map f).render frames =
      (c.render frames).map fun answer => (answer.1, answer.2.1.map f, answer.2.2) := by
  cases hm : c.memory with
  | none =>
    have hm' : (c.map f).memory = none := hm
    unfold Card.render
    rw [hm', hm]
    cases (mulBelow word64 frames 2).mapError Breakdown.atOnce <;> rfl
  | some memory =>
    have hm' : (c.map f).memory = some memory := hm
    rw [Card.render_of_memory hm', Card.render_of_memory hm, Card.opening_map]
    cases c.opening memory frames with
    | error fault => rfl
    | ok opened =>
      change ((opened.2.map f).spend opened.1 >>= fun r => pure ((c.map f).closing r)) = _
      rw [h.spend]
      change _ = ((opened.2.spend opened.1 >>= fun r => pure (c.closing r)).map _)
      cases opened.2.spend opened.1 with
      | error breakdown => rfl
      | ok r =>
        change Except.ok ((c.map f).closing (r.map f)) = _
        have hfinish := h.finish r.bus.device.fm
        simp only [Card.closing, Run.map, CardBus.map, Device.map, hfinish]
        rfl

end Fm.FmChip.Hom

/-! ## Recorders -/

namespace Fm.Recorded

variable {χ : Type}

def fresh (chip : χ) : Recorded χ := { chip }

/-- The recorder of `r` as if it had heard `earlier` calls before. -/
def since (earlier : Array ChipCall) (counted : Nat) (r : Recorded χ) : Recorded χ where
  chip := r.chip
  calls := earlier ++ r.calls
  counted := counted + r.counted

variable [FmChip χ]

theorem chip_hom : FmChip.Hom (Recorded.chip (χ := χ)) where
  write _ _ _ := rfl
  status _ := rfl
  count _ _ := rfl
  mix _ _ := rfl
  writeNotices _ _ _ := rfl

theorem since_hom (earlier : Array ChipCall) (counted : Nat) :
    FmChip.Hom (since (χ := χ) earlier counted) where
  write r register value := by simp only [since, FmChip.write, Array.push_append]
  status _ := rfl
  count r micros := by simp only [since, FmChip.count, Nat.add_assoc]
  mix r frames := by simp only [since, FmChip.mix, Array.push_append]
  writeNotices _ _ _ := rfl

end Fm.Recorded

def Fm.ChipCall.write? : ChipCall → Option (UInt8 × UInt8)
  | .write register value => some (register, value)
  | .reset | .mix _ => none

namespace Run

variable {κ χ : Type} [Processor κ] [FmChip χ]

/-- The same state in front of a chip with a new recorder. -/
def recording (r : Run κ χ) : Run κ (Recorded χ) := r.map Recorded.fresh

def chipCalls (r : Run κ χ) : List ChipCall :=
  r.recording.acted.bus.device.fm.chip.calls.toList

/-- The register writes that a step forwards to the chip. -/
def forwarded (r : Run κ χ) : List (UInt8 × UInt8) := r.chipCalls.filterMap ChipCall.write?

theorem calls_acted (r : Run κ (Recorded χ)) :
    r.acted.bus.device.fm.chip.calls.toList =
      r.bus.device.fm.chip.calls.toList ++ (r.map Recorded.chip).chipCalls := by
  let heard := r.bus.device.fm.chip
  have hr : r = (r.map Recorded.chip).recording.map (Recorded.since heard.calls heard.counted) := by
    simp only [recording, map, CardBus.map, Device.map, FmPort.map, Recorded.fresh, Recorded.since,
      Array.append_empty, Nat.add_zero, heard]
  have hacted := congrArg Run.acted hr
  rw [(Recorded.since_hom heard.calls heard.counted).acted] at hacted
  rw [hacted, chipCalls, ← Array.toList_append]
  rfl

theorem recording_acted (r : Run κ χ) : r.recording.acted.map Recorded.chip = r.acted :=
  (Recorded.chip_hom.acted r.recording).symm

theorem calls_spend (budget : Int) {r r' : Run κ (Recorded χ)} (h : r.spend budget = .ok r') :
    r'.bus.device.fm.chip.calls.toList =
      r.bus.device.fm.chip.calls.toList ++
        ((r.map Recorded.chip).steps budget).flatMap chipCalls := by
  induction budget, r using block_induct with
  | spent budget r hpos =>
    rw [spend_of_not_pos hpos] at h
    obtain rfl := Except.ok.inj h
    rw [steps_of_not_pos hpos, List.flatMap_nil, List.append_nil]
  | broken budget r fault hpos hn =>
    rw [spend_of_error hpos hn] at h
    cases h
  | settled budget r s hpos hn ih =>
    have hnext : (r.map Recorded.chip).next = .ok (s.map Recorded.chip) := by
      rw [Recorded.chip_hom.next, hn]
      rfl
    have hcalls : s.bus.device.fm.chip.calls = r.acted.bus.device.fm.chip.calls := by
      obtain ⟨reached, cursor, fm, -, hfm, rfl⟩ := settle_eq_ok hn
      obtain ⟨position, rfl⟩ := reach_eq_ok hfm
      rfl
    rw [spend_of_next hpos hn] at h
    rw [ih h, hcalls, calls_acted, steps_of_next hpos hnext, List.flatMap_cons,
      List.append_assoc, Recorded.chip_hom.cost]

/-- A block in front of a new recorder ends as it does without, and the recorder has heard the calls
of its steps. -/
theorem spend_recording {budget : Int} {start r : Run κ χ} (h : start.spend budget = .ok r) :
    ∃ last, start.recording.spend budget = .ok last ∧ last.map Recorded.chip = r ∧
      last.bus.device.fm.chip.calls.toList = (start.steps budget).flatMap chipCalls := by
  have hsame := Recorded.chip_hom.spend budget start.recording
  change start.spend budget = _ at hsame
  rw [h] at hsame
  cases hs : start.recording.spend budget with
  | error b => rw [hs] at hsame; exact absurd hsame (by simp [Except.map])
  | ok last =>
    rw [hs] at hsame
    exact ⟨last, rfl, (Except.ok.inj hsame).symm, calls_spend budget hs⟩

end Run

def Card.recording {κ χ : Type} (c : Card κ χ) : Card κ (Recorded χ) := c.map Recorded.fresh

end FeatureCard
