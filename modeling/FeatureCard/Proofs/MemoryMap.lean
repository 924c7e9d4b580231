import FeatureCard.Proofs.Latching
import FeatureCard.Proofs.Settling

/-!
# What the memory answers

A read in the lower half of the address space gives the firmware, whatever was written. A read in the
upper half gives the byte that was written last to its cell, under whichever of the two addresses.
So it is for every access of the processor, over the whole life of a card.
-/

namespace FeatureCard

open Fm (FmChip)

/-- The byte that the access leaves in the cell of work memory at `address`. -/
def BusAccess.storedAt? (address : UInt16) : BusAccess → Option UInt8
  | .write place value =>
    if 0x8000 ≤ place ∧ place &&& 0x3FFF = address &&& 0x3FFF then some value else none
  | .read _ _ | .input _ _ | .output _ _ => none

/-- What a read gives after the accesses of `history`. -/
def memoryAnswer (firmware : ByteArray) (history : List BusAccess) (address : UInt16) : UInt8 :=
  if address < 0x8000 then firmware[address.toNat]?.getD 0
  else (latest? (BusAccess.storedAt? address) history).getD 0

namespace Memory

/-! ## Reads and writes -/

theorem lower_iff (address : UInt16) : address.toNat < romSize ↔ address < 0x8000 := Iff.rfl

theorem ramIndex_eq_iff (a b : UInt16) :
    ramIndex a = ramIndex b ↔ a &&& 0x3FFF = b &&& 0x3FFF := by
  have hmask (n : Nat) : n &&& 0x3FFF = n % ramSize := Nat.and_two_pow_sub_one_eq_mod n 14
  rw [← UInt16.toNat_inj, UInt16.toNat_and, UInt16.toNat_and]
  change _ ↔ a.toNat &&& 0x3FFF = b.toNat &&& 0x3FFF
  rw [hmask, hmask]
  exact Fin.ext_iff

theorem read_ofFirmware (firmware : ByteArray) (address : UInt16) :
    (ofFirmware firmware).read address = memoryAnswer firmware [] address := by
  unfold read memoryAnswer
  simp only [← lower_iff]
  split
  · simp only [ofFirmware, Vector.getElem_ofFn]
    split
    · rename_i h
      rw [getElem?_pos firmware _ h]
      rfl
    · rename_i h
      rw [getElem?_neg firmware _ h]
      rfl
  · simp only [ofFirmware, Fin.getElem_fin, Vector.getElem_replicate]
    rfl

theorem write_of_lower (m : Memory) {address : UInt16} (h : address < 0x8000) (value : UInt8) :
    m.write address value = m := if_pos h

theorem read_write (m : Memory) (place address : UInt16) (value : UInt8) :
    (m.write place value).read address =
      if address < 0x8000 then m.read address
      else ((BusAccess.write place value).storedAt? address).getD (m.read address) := by
  unfold BusAccess.storedAt?
  by_cases hplace : place < 0x8000
  · have hupper : ¬ 0x8000 ≤ place := UInt16.not_le.2 hplace
    simp only [m.write_of_lower hplace, hupper, false_and, if_false, Option.getD_none, ite_self]
  · have hupper : 0x8000 ≤ place := UInt16.not_lt.1 hplace
    have hwrite : m.write place value = { m with ram := m.ram.set (ramIndex place) value } :=
      if_neg hplace
    simp only [hwrite, read, hupper, true_and, ← ramIndex_eq_iff, lower_iff]
    split
    · rfl
    · simp only [Fin.getElem_fin, Vector.getElem_set, Fin.val_inj]
      split <;> rfl

/-! ## A history of accesses -/

def after (m : Memory) : BusAccess → Memory
  | .write address value => m.write address value
  | .read _ _ | .input _ _ | .output _ _ => m

def afterAll (m : Memory) (accesses : List BusAccess) : Memory := accesses.foldl after m

theorem read_after (m : Memory) (access : BusAccess) (address : UInt16) :
    (m.after access).read address =
      if address < 0x8000 then m.read address
      else (access.storedAt? address).getD (m.read address) := by
  cases access with
  | write place value => exact m.read_write place address value
  | read | input | output => exact (ite_self _).symm

theorem read_afterAll (firmware : ByteArray) (history : List BusAccess) (address : UInt16) :
    ((ofFirmware firmware).afterAll history).read address =
      memoryAnswer firmware history address := by
  induction history using List.reverseRecOn with
  | nil => exact read_ofFirmware firmware address
  | append_singleton history access ih =>
    rw [afterAll, List.foldl_append]
    change (((ofFirmware firmware).afterAll history).after access).read address = _
    rw [read_after, ih]
    unfold memoryAnswer
    split
    · rfl
    · rw [latest?_concat]
      cases access.storedAt? address <;> rfl

/-- Each read among the accesses is answered by the memory as it is then. -/
def Answers (m : Memory) : List BusAccess → Prop
  | [] => True
  | access :: later =>
    (∀ address value, access = .read address value → value = m.read address) ∧
      (m.after access).Answers later

/-- The memory answers the accesses, and then it is `m'`. -/
structure Serves (m : Memory) (accesses : List BusAccess) (m' : Memory) : Prop where
  answers : m.Answers accesses
  after : m' = m.afterAll accesses

theorem Serves.refl (m : Memory) : m.Serves [] m := ⟨trivial, rfl⟩

theorem Serves.cons {m m' : Memory} {access : BusAccess} {later : List BusAccess}
    (h : ∀ address value, access = .read address value → value = m.read address)
    (hlater : (m.after access).Serves later m') : m.Serves (access :: later) m' :=
  ⟨⟨h, hlater.answers⟩, hlater.after⟩

theorem Serves.trans {m m' m'' : Memory} {first second : List BusAccess}
    (h : m.Serves first m') (h' : m'.Serves second m'') : m.Serves (first ++ second) m'' := by
  induction first generalizing m with
  | nil =>
    obtain rfl : m' = m := h.after
    exact h'
  | cons access first ih => exact .cons h.answers.1 (ih ⟨h.answers.2, h.after⟩)

theorem Serves.read {m m' : Memory} {before later : List BusAccess} {address : UInt16}
    {value : UInt8} (h : m.Serves (before ++ .read address value :: later) m') :
    value = (m.afterAll before).read address := by
  induction before generalizing m with
  | nil => exact h.answers.1 address value rfl
  | cons access before ih => exact ih ⟨h.answers.2, h.after⟩

end Memory

/-! ## The accesses of the processor -/

section Processor

variable {κ χ : Type} [FmChip χ]

theorem BusProgram.memory_serves {α : Type} (p : BusProgram α) (b : CardBus χ) :
    b.memory.Serves ((p.trace b).map Prod.fst) (p.run b).2.memory := by
  induction p generalizing b with
  | done a => exact .refl _
  | read address next ih =>
    refine .cons ?_ (ih _ b)
    rintro place value ⟨⟩
    rfl
  | write address value next ih =>
    exact .cons (fun _ _ h => nomatch h) (ih (Bus.write b address value))
  | input port next ih => exact .cons (fun _ _ h => nomatch h) (ih _ (Bus.input b port).2)
  | output port value next ih =>
    exact .cons (fun _ _ h => nomatch h) (ih (Bus.output b port value))

variable [Processor κ]

namespace Run

/-- What the processor does on the bus in these steps. -/
def busAccesses (steps : List (Run κ χ)) : List BusAccess :=
  (steps.flatMap accesses).map Prod.fst

theorem busAccesses_append (first second : List (Run κ χ)) :
    busAccesses (first ++ second) = busAccesses first ++ busAccesses second := by
  rw [busAccesses, List.flatMap_append, List.map_append]
  rfl

theorem offer_memory (r : Run κ χ) :
    r.bus.memory.Serves (r.offerAccesses.map Prod.fst) r.offer.2.bus.memory := by
  unfold offerAccesses offer
  split
  · exact BusProgram.memory_serves _ r.bus
  · exact .refl _

theorem acted_memory (r : Run κ χ) :
    r.bus.memory.Serves (busAccesses [r]) r.acted.bus.memory := by
  have hexecute : r.offer.2.bus.memory.Serves (r.executeAccesses.map Prod.fst)
      r.acted.bus.memory := by
    unfold executeAccesses acted act
    by_cases hcost : r.offer.1 = 0
    · simp only [hcost, ne_eq, not_true_eq_false, if_false, if_true]
      exact BusProgram.memory_serves _ r.offer.2.bus
    · simp only [hcost, ne_eq, not_false_eq_true, if_true, if_false]
      exact .refl _
  have haccesses : busAccesses [r] =
      r.offerAccesses.map Prod.fst ++ r.executeAccesses.map Prod.fst := by
    rw [busAccesses, List.flatMap_singleton, accesses, List.map_append]
  rw [haccesses]
  exact r.offer_memory.trans hexecute

theorem next_memory {r r' : Run κ χ} (h : r.next = .ok r') :
    r'.bus.memory = r.acted.bus.memory := by
  obtain ⟨reached, cursor, fm, -, -, rfl⟩ := settle_eq_ok h
  rfl

theorem spend_memory (budget : Int) (r : Run κ χ) :
    ∃ m, r.bus.memory.Serves (busAccesses (r.steps budget)) m ∧
      ∀ last, r.spend budget = .ok last → last.bus.memory = m := by
  induction budget, r using block_induct with
  | spent budget r hpos =>
    rw [steps_of_not_pos hpos, spend_of_not_pos hpos]
    exact ⟨r.bus.memory, .refl _, fun last hlast => Except.ok.inj hlast ▸ rfl⟩
  | broken budget r f hpos hn =>
    rw [steps_of_error hpos hn, spend_of_error hpos hn]
    exact ⟨r.acted.bus.memory, r.acted_memory, fun last hlast => nomatch hlast⟩
  | settled budget r r' hpos hn ih =>
    obtain ⟨m, hserves, hlast⟩ := ih
    rw [next_memory hn] at hserves
    rw [steps_of_next hpos hn, spend_of_next hpos hn, ← List.singleton_append,
      busAccesses_append]
    exact ⟨m, r.acted_memory.trans hserves, hlast⟩

end Run

namespace Card

open Run (busAccesses)

theorem perform_memory {c : Card κ χ} {memory : Memory} (hm : c.memory = some memory)
    (e : CardEvent) :
    ∃ m, memory.Serves (busAccesses (c.stepsOf e)) m ∧
      ∀ answer c' effects, c.perform e = .ok (answer, c', effects) → c'.memory = some m := by
  cases e with
  | read port | write port value | timerExpired timer | midi chunk =>
    refine ⟨memory, .refl _, fun answer c' effects hp => ?_⟩
    rcases perform_cases hp with ⟨e, -, rfl, -⟩ | ⟨rfl, -⟩ | ⟨frames, output, he, -⟩
    · exact hm
    · exact hm
    · cases he
  | render frames =>
    cases ho : c.opening memory frames with
    | error f =>
      have hnone : c.stepsOf (.render frames) = [] := by simp only [stepsOf, steps, hm, ho]
      rw [hnone]
      refine ⟨memory, .refl _, fun answer c' effects hp => ?_⟩
      simp [perform, render_of_memory hm, ho, bind, Except.bind] at hp
    | ok opened =>
      obtain ⟨budget, start⟩ := opened
      have hstart : start.bus.memory = memory := by
        obtain ⟨-, -, rfl⟩ := opening_eq_ok ho
        rfl
      obtain ⟨m, hserves, hlast⟩ := start.spend_memory budget
      rw [hstart, ← steps_of_opening hm ho] at hserves
      refine ⟨m, hserves, fun answer c' effects hp => ?_⟩
      obtain ⟨output, hr⟩ := render_of_perform hp
      rcases render_eq_ok hr with ⟨hnone, -⟩ | ⟨memory', budget', start', last, hm', ho', hs, hc⟩
      · rw [hm] at hnone
        cases hnone
      · obtain rfl : memory = memory' := Option.some.inj (hm.symm.trans hm')
        obtain ⟨rfl, rfl⟩ := Prod.mk.inj (Except.ok.inj (ho.symm.trans ho'))
        cases hc
        exact congrArg some (hlast last hs)

theorem live_memory {c : Card κ χ} {memory : Memory} (hm : c.memory = some memory)
    (events : List CardEvent) :
    ∃ m, memory.Serves (busAccesses (c.life events)) m ∧
      ∀ c', c.live events = .ok c' → c'.memory = some m := by
  induction events generalizing c memory with
  | nil => exact ⟨memory, .refl _, fun c' hl => Except.ok.inj hl ▸ hm⟩
  | cons e events ih =>
    obtain ⟨m, hserves, hmemory⟩ := perform_memory hm e
    rw [life, Run.busAccesses_append]
    cases hp : c.perform e with
    | error b =>
      refine ⟨m, hserves.trans (.refl m), fun c' hl => ?_⟩
      obtain ⟨answer, c₁, effects, hp', -⟩ := live_cons.1 hl
      rw [hp] at hp'
      cases hp'
    | ok result =>
      obtain ⟨answer, c₁, effects⟩ := result
      obtain ⟨m', hserves', hmemory'⟩ := ih (hmemory answer c₁ effects hp)
      refine ⟨m', hserves.trans hserves', fun c' hl => ?_⟩
      obtain ⟨answer', c₂, effects', hp', hlater⟩ := live_cons.1 hl
      rw [hp] at hp'
      cases hp'
      exact hmemory' c' hlater

end Card

/-- What holds of memory with this firmware, and of the memory of a card that lives through
`events`. -/
structure MemoryFollows (firmware : ByteArray) (c : Card κ χ) (events : List CardEvent) : Prop where
  /-- A read after any accesses, whoever makes them. -/
  reads : ∀ history address, ((Memory.ofFirmware firmware).afterAll history).read address =
    memoryAnswer firmware history address
  lower : ∀ history later place value, place < 0x8000 →
    (Memory.ofFirmware firmware).afterAll (history ++ .write place value :: later) =
      (Memory.ofFirmware firmware).afterAll (history ++ later)
  sizes : ∀ history, let m := (Memory.ofFirmware firmware).afterAll history
    m.rom.toArray.size = 0x8000 ∧ m.ram.toArray.size = 0x4000
  /-- A read of the processor after all that it did on the bus before. -/
  processor : ∀ before address value later,
    Run.busAccesses (c.life events) = before ++ .read address value :: later →
      value = memoryAnswer firmware before address
  memory : ∀ c', c.live events = .ok c' →
    c'.memory = some ((Memory.ofFirmware firmware).afterAll (Run.busAccesses (c.life events)))

/-- Memory answers with the firmware or with the byte written last, also within the blocks of a
card. -/
theorem memory_follows_writes (config : Config) (firmware : ByteArray) (cpu : κ) (chip : χ)
    (events : List CardEvent) :
    MemoryFollows firmware (Card.assemble config (some firmware) cpu chip) events := by
  obtain ⟨m, hserves, hmemory⟩ :=
    Card.live_memory (c := Card.assemble config (some firmware) cpu chip) rfl events
  constructor
  case reads => exact Memory.read_afterAll firmware
  case lower =>
    intro history later place value hplace
    rw [Memory.afterAll, List.foldl_append, List.foldl_cons]
    change List.foldl _ (Memory.write _ place value) later = _
    rw [Memory.write_of_lower _ hplace, Memory.afterAll, List.foldl_append]
  case sizes => exact fun history => ⟨Vector.size_toArray _, Vector.size_toArray _⟩
  case processor =>
    intro before address value later hsplit
    rw [hsplit] at hserves
    rw [hserves.read, Memory.read_afterAll]
  case memory =>
    intro c' hl
    rw [hmemory c' hl, hserves.after]

end Processor

end FeatureCard
