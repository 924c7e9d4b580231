import FeatureCard.Bench
import FeatureCard.Proofs.Engines

/-!
# Accepting an interrupt

A mounted engine accepts an interrupt just if its snapshot says that interrupts are enabled, and not
only since the last instruction. It is then set back to that snapshot with the latches cleared, the
old program counter goes on the stack, and the program goes on in the handler of its mode.
-/

namespace FeatureCard.Z80

open Inspected (view)

namespace Mounted

/-- What accepting an interrupt costs in a mode. -/
def acknowledgeCost (mode : UInt8) : UInt32 := if mode = 2 then 19 else 13

section Run

variable {ε σ : Type} [Engine ε] [Bus σ]

/-- Where an accepted interrupt goes on, by the bus as it was. -/
def target (engine : ε) (mode : UInt8) (s : σ) : UInt16 :=
  if mode = 2 then word (Bus.read s (tableEntry engine + 1)) (Bus.read s (tableEntry engine))
  else restartAddress

/-- The bus with the program counter on the stack. -/
def stacked (sp pc : UInt16) (s : σ) : σ :=
  Bus.write (Bus.write s (sp - 1) (highByte pc)) (sp - 2) (lowByte pc)

/-! ## The parts of an interrupt -/

theorem handler_run (engine : ε) (mode : UInt8) (s : σ) :
    (handler engine mode).run s = ((target engine mode s, acknowledgeCost mode), s) := by
  by_cases hmode : mode = 2
  · subst hmode
    rfl
  · unfold handler target acknowledgeCost
    rw [if_neg hmode, if_neg hmode]
    split
    · exact absurd rfl hmode
    · rfl

theorem push_run (engine : ε) (value : UInt16) (s : σ) :
    (push engine value).run s =
      (Engine.setSp engine (Engine.sp engine - 2), stacked (Engine.sp engine) value s) := by
  have hbelow : Engine.sp engine - 2 + 1 = Engine.sp engine - 1 := by
    grind
  unfold stacked
  rw [← hbelow]
  rfl

theorem enter_run (m : Mounted ε) (mode : UInt8) (s : σ) :
    (m.enter mode).run s =
      ((acknowledgeCost mode,
        { engine := Engine.setPc (Engine.setSp m.engine (m.sp - 2)) (target m.engine mode s)
          extra := m.extra + (acknowledgeCost mode).toNat }),
        stacked m.sp m.pc s) := by
  unfold enter
  rw [BusProgram.run_bind, handler_run]
  dsimp only
  rw [BusProgram.run_bind, push_run]
  rfl

theorem acknowledge_of_capture {engine : ε} {s : Snapshot} (hs : Snapshot.capture engine = some s) :
    acknowledge engine =
      if s.accepts then
        (Engine.deserialize engine s.acknowledged.bytes).map (·, s.byte Snapshot.mode)
      else none := by
  simp only [acknowledge, hs, Option.bind_eq_bind, Option.bind_some]
  by_cases ha : s.accepts = true
  · have hguard : (guard (s.accepts = true) : Option Unit) = some () := if_pos ha
    rw [hguard, if_pos ha]
    cases Engine.deserialize engine s.acknowledged.bytes <;> rfl
  · have hguard : (guard (s.accepts = true) : Option Unit) = none := if_neg ha
    rw [hguard, if_neg ha]
    rfl

theorem interrupt_of_none {m : Mounted ε} (h : acknowledge m.engine = none) (s : σ) :
    m.interrupt.run s = ((0, m), s) := by
  unfold interrupt
  rw [h]
  rfl

theorem interrupt_of_some {m : Mounted ε} {engine : ε} {mode : UInt8}
    (h : acknowledge m.engine = some (engine, mode)) (s : σ) :
    m.interrupt.run s = (({ m with engine } : Mounted ε).enter mode).run s := by
  unfold interrupt
  rw [h]

end Run

/-! ## Faithful engines -/

section Faithful

variable {ε : Type} [Inspected ε] (h : Inspected.Faithful ε)
include h

theorem accepts_eq {engine : ε} {s : Snapshot} (hs : Snapshot.capture engine = some s) :
    s.accepts = (Inspected.iff1 engine && !Inspected.justEnabled engine) := by
  have hshows := h.shows engine s hs
  have hiff1 : Inspected.iff1 engine = (s.byte Snapshot.iff1 != 0) := hshows.iff1
  have hjust : Inspected.justEnabled engine = !(s.byte Snapshot.justEnabled == 0) :=
    hshows.justEnabled
  rw [hiff1, hjust, Bool.not_not]
  rfl

theorem view_cleared {engine engine' : ε} {s : Snapshot} (hs : Snapshot.capture engine = some s)
    (hread : Engine.deserialize engine (s.clearAll Snapshot.latches).bytes = some engine')
    (hs' : Snapshot.capture engine' = some (s.clearAll Snapshot.latches)) :
    view engine' = { view engine with iff1 := false, iff2 := false, halted := false } := by
  have hshows := h.shows engine s hs
  have hshows' := h.shows engine' _ hs'
  have hsame : ∀ place ∉ Snapshot.latches,
      (s.clearAll Snapshot.latches).byte place = s.byte place := fun place hplace => by
    rw [Snapshot.byte_clearAll, if_neg hplace]
  have hcleared : ∀ place ∈ Snapshot.latches,
      ((s.clearAll Snapshot.latches).byte place != 0) = false := fun place hplace => by
    rw [Snapshot.byte_clearAll, if_pos hplace]
    rfl
  have hcount : (s.clearAll Snapshot.latches).count = s.count := s.count_clearAll fun _ hp => hp
  obtain ⟨hregister, hsp, hpc⟩ := h.elsewhere engine engine' s _ hs hs' hsame
  have hiff1 : Inspected.iff1 engine' = false := hshows'.iff1.trans (hcleared _ (by decide))
  have hiff2 : Inspected.iff2 engine' = false := hshows'.iff2.trans (hcleared _ (by decide))
  have hhalted : Engine.halted engine' = false := hshows'.halted.trans (hcleared _ (by decide))
  have hmode : Inspected.mode engine' = Inspected.mode engine := by
    refine hshows'.mode.trans (.trans ?_ hshows.mode.symm)
    exact hsame _ (by decide)
  have hjust : Inspected.justEnabled engine' = Inspected.justEnabled engine := by
    refine hshows'.justEnabled.trans (.trans ?_ hshows.justEnabled.symm)
    rw [hsame _ (by decide)]
  have hcycles := h.restores engine engine' s _ hs hcount hread
  simp only [view, hregister, hsp, hpc, hiff1, hiff2, hhalted, hmode, hjust, hcycles]

theorem acknowledge_declines {engine : ε}
    (hoff : Inspected.iff1 engine = false ∨ Inspected.justEnabled engine = true) :
    acknowledge engine = none := by
  have hs : Snapshot.capture engine = some ⟨Engine.serialize engine, h.complete engine⟩ :=
    Snapshot.capture_eq_some.2 rfl
  rw [acknowledge_of_capture hs, accepts_eq h hs]
  rcases hoff with hoff | hoff <;> simp [hoff]

theorem acknowledge_accepts {engine : ε} (hon : Inspected.iff1 engine = true)
    (hjust : Inspected.justEnabled engine = false) :
    ∃ engine', acknowledge engine = some (engine', Inspected.mode engine) ∧
      view engine' = { view engine with iff1 := false, iff2 := false, halted := false } := by
  have hs : Snapshot.capture engine = some ⟨Engine.serialize engine, h.complete engine⟩ :=
    Snapshot.capture_eq_some.2 rfl
  obtain ⟨engine', hread, hs'⟩ := h.accepts engine _ Snapshot.latches hs fun _ hp => hp
  refine ⟨engine', ?_, view_cleared h hs hread hs'⟩
  rw [acknowledge_of_capture hs, accepts_eq h hs, hon, hjust, Snapshot.acknowledged_eq, hread,
    ← (h.shows engine _ hs).mode]
  rfl

end Faithful

/-- What an accepted interrupt makes of the processor `m` on the bus `s`. -/
structure Acknowledges {ε σ : Type} [Inspected ε] [Bus σ] (m m' : Mounted ε) (s : σ) : Prop where
  run : m.interrupt.run s =
    ((acknowledgeCost (Inspected.mode m.engine), m'), stacked m.sp m.pc s)
  /-- Nothing else is changed in the engine. -/
  view_eq : view m'.engine =
    { view m.engine with
      sp := m.sp - 2
      pc := target m.engine (Inspected.mode m.engine) s
      iff1 := false
      iff2 := false
      halted := false }
  totalCycles : m'.totalCycles =
    m.totalCycles + (acknowledgeCost (Inspected.mode m.engine)).toNat
  again : ∀ {τ : Type} [Bus τ] (t : τ), m'.interrupt.run t = ((0, m'), t)

theorem acknowledges {ε σ : Type} [Inspected ε] (h : Inspected.Faithful ε) [Bus σ]
    {m : Mounted ε} (hon : Inspected.iff1 m.engine = true)
    (hjust : Inspected.justEnabled m.engine = false) (s : σ) : ∃ m', m.Acknowledges m' s := by
  obtain ⟨engine, hacknowledged, hview⟩ := acknowledge_accepts h hon hjust
  have hsp : Engine.sp engine = m.sp := congrArg View.sp hview
  have hpc : Engine.pc engine = m.pc := congrArg View.pc hview
  have hregister : Engine.register engine = Engine.register m.engine :=
    congrArg View.register hview
  have htarget : target engine (Inspected.mode m.engine) s =
      target m.engine (Inspected.mode m.engine) s := by
    rw [target, target, tableEntry, tableEntry, hregister]
  let entered : ε :=
    Engine.setPc (Engine.setSp engine (m.sp - 2)) (target m.engine (Inspected.mode m.engine) s)
  have hafter : view entered =
      { view m.engine with
        sp := m.sp - 2
        pc := target m.engine (Inspected.mode m.engine) s
        iff1 := false
        iff2 := false
        halted := false } := by
    rw [h.setPc, h.setSp, hview]
  have hcycles : Engine.cycles entered = Engine.cycles m.engine := congrArg View.cycles hafter
  have hoff : Inspected.iff1 entered = false := congrArg View.iff1 hafter
  refine ⟨{
    engine := entered
    extra := m.extra + (acknowledgeCost (Inspected.mode m.engine)).toNat }, ?run, hafter, ?_, ?again⟩
  case run =>
    have hrun := interrupt_of_some hacknowledged s
    rw [enter_run] at hrun
    simp only [sp, pc, hsp, hpc, htarget] at hrun
    exact hrun
  case again =>
    intro τ _ t
    exact interrupt_of_none (acknowledge_declines h (.inl hoff)) t
  rw [totalCycles, totalCycles, hcycles, Nat.add_assoc]

end Mounted

/-- An interrupt is accepted just if interrupts are enabled and were not only by the last instruction.
The old program counter goes on the stack, the handler of the mode is entered, and nothing else of
the engine changes. An interrupt that is declined changes nothing at all. -/
theorem interrupts_are_acknowledged {ε σ : Type} [Inspected ε] (h : Inspected.Faithful ε) [Bus σ]
    (m : Mounted ε) (s : σ) :
    (Inspected.iff1 m.engine = false ∨ Inspected.justEnabled m.engine = true →
      m.interrupt.run s = ((0, m), s)) ∧
    (Inspected.iff1 m.engine = true → Inspected.justEnabled m.engine = false →
      ∃ m', m.Acknowledges m' s) :=
  ⟨fun hoff => Mounted.interrupt_of_none (Mounted.acknowledge_declines h hoff) s,
    fun hon hjust => Mounted.acknowledges h hon hjust s⟩

/-- A halted engine in mode 2 with its table and its stack at both ends of the address space. The
vector is read before the stack overwrites it. -/
theorem interrupts_are_acknowledged_at_the_ends :
    let state : State :=
      { State.powerOn with
        i := 0xFF, sp := 1, pc := 0x1234, iff1 := true, iff2 := true, mode := .two, halted := true }
    let m : Mounted Core := { engine := { state, executed := 100 }, extra := 8 }
    let bench := Bench.ofFn fun address => (address / 256).toUInt8
    Inspected.Faithful Core ∧ Inspected.iff1 m.engine = true ∧
    Inspected.justEnabled m.engine = false ∧
    ∃ m', m.Acknowledges m' bench ∧ m'.pc = 0x00FF ∧ m'.sp = 0xFFFF ∧ m'.halted = false ∧
      m'.totalCycles = 127 ∧
      (m.interrupt.run bench).2 = Bus.write (Bus.write bench 0x0000 0x12) 0xFFFF 0x34 := by
  intro state m bench
  obtain ⟨m', hm'⟩ := (interrupts_are_acknowledged Core.faithful m bench).2 rfl rfl
  have hread (address : UInt16) : Bus.read bench address = (address.toNat / 256).toUInt8 :=
    Vector.getElem_ofFn address.toNat_lt
  have htable : Mounted.tableEntry m.engine = 0xFFFF := by decide
  have htarget : Mounted.target m.engine 2 bench = 0x00FF := by
    rw [Mounted.target, if_pos rfl, hread, hread, htable]
    decide
  have hpc : m'.pc = 0x00FF := (congrArg View.pc hm'.view_eq).trans htarget
  have htotal : m'.totalCycles = 127 := hm'.totalCycles.trans (by decide)
  have hbus : Mounted.stacked m.sp m.pc bench =
      Bus.write (Bus.write bench 0x0000 0x12) 0xFFFF 0x34 := by
    have habove : m.sp - 1 = 0x0000 := by decide
    have hbelow : m.sp - 2 = 0xFFFF := by decide
    have hhigh : highByte m.pc = 0x12 := by decide
    have hlow : lowByte m.pc = 0x34 := by decide
    rw [Mounted.stacked, habove, hbelow, hhigh, hlow]
  refine ⟨Core.faithful, rfl, rfl, m', hm', hpc, ?_, congrArg View.halted hm'.view_eq, htotal, ?_⟩
  · exact (congrArg View.sp hm'.view_eq).trans (by decide)
  · rw [hm'.run, hbus]

end FeatureCard.Z80
