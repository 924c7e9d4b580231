import FeatureCard.Proofs.Byte
import FeatureCard.Proofs.Device

/-!
# What an event does to the interval timer

Four ports of the host lead to the interval timer: three take bytes of counts, one takes control
words. An access leaves a timer as it is, stops it or starts it, and the host is asked for just
that. A firing starts its timer again.
-/

namespace FeatureCard

open Fm (FmChip)
open PortMap

/-! ## The events that concern the timers -/

/-- The counter that takes the bytes written to this port of the host. -/
def counterAt (offset : UInt8) : Option (Fin 3) :=
  if offset &&& 0x0C = 4 then TimerBlock.counter? (offset &&& 3) else none

theorem counterAt_of_word (offset : UInt8) : offset &&& 0x0F = 7 → counterAt offset = none := by
  revert offset
  exact forall_byte (by decide +kernel)

namespace DeviceEvent

/-- The counter and the byte that the host writes to it. -/
def counterByte? : DeviceEvent → Option (Fin 3 × UInt8)
  | .hostWrite offset value => (counterAt offset).map (·, value)
  | _ => none

def timerWord? : DeviceEvent → Option UInt8
  | .hostWrite offset value => if offset &&& 0x0F = 7 then some value else none
  | _ => none

/-- Every event but a firing. -/
def isAccess : DeviceEvent → Bool
  | .timerExpired _ => false
  | .cardRead _ | .cardWrite _ _ | .hostRead _ | .hostWrite _ _ | .midi _ => true

/-- The event is a control word that selects a counter of `timer`. -/
def Stops (timer : Timer) (e : DeviceEvent) : Prop :=
  ∃ word i, e.timerWord? = some word ∧ TimerBlock.counter? (word >>> 6) = some i ∧
    TimerBlock.timerOf i = timer

end DeviceEvent

/-! ## Requests for a timer -/

def HostCall.isFor {τ : Type} (timer : Timer) : HostCall τ → Bool
  | .raise _ | .lower _ => false
  | .schedule t _ | .cancel t => t == timer

namespace Effect

def callsFor (timer : Timer) (effects : List Effect) : List (HostCall Period) :=
  (calls effects).filter (HostCall.isFor timer)

@[simp] theorem callsFor_nil (timer : Timer) : callsFor timer [] = [] := rfl

@[simp] theorem callsFor_note (timer : Timer) (notice : Notice) (effects : List Effect) :
    callsFor timer (.note notice :: effects) = callsFor timer effects := rfl

@[simp] theorem callsFor_append (timer : Timer) (first second : List Effect) :
    callsFor timer (first ++ second) = callsFor timer first ++ callsFor timer second := by
  rw [callsFor, calls_append, List.filter_append]
  rfl

theorem callsFor_of_calls {effects : List Effect} (h : calls effects = []) (timer : Timer) :
    callsFor timer effects = [] := by
  rw [callsFor, h]
  rfl

theorem callsFor_one (timer : Timer) (request : HostCall Period) (h : request.isFor timer = true) :
    callsFor timer [.call request] = [request] :=
  List.filter_cons_of_pos h

theorem callsFor_other (timer : Timer) (request : HostCall Period)
    (h : request.isFor timer = false) : callsFor timer [.call request] = [] :=
  List.filter_cons_of_neg (by simp [h])

end Effect

/-! ## The block -/

namespace Counter

theorem divisor_le (c : Counter) : c.divisor ≤ 65536 := by
  have hlatch := c.latch.toNat_lt
  unfold divisor
  split <;> omega

end Counter

namespace TimerBlock

theorem loaded_iff (t : TimerBlock) (timer : Timer) :
    t.loaded timer = true ↔
      ∀ i, timerOf i = timer → Counter.complete ≤ (t.counter i).loadState := by
  cases timer <;> simp [loaded, timerOf, counter, Fin.forall_fin_succ]

/-- A byte for counter `i` is all that `timer` lacks. -/
def Lacks (t : TimerBlock) (timer : Timer) (i : Fin 3) : Prop :=
  timerOf i = timer ∧ (t.counter i).loadState + 1 = Counter.complete ∧
    ∀ j, timerOf j = timer → j ≠ i → Counter.complete ≤ (t.counter j).loadState

/-- What a write did to `timer` and asked for it: `t` became `t'`. -/
inductive Outcome (t t' : TimerBlock) (timer : Timer) (calls : List (HostCall Period)) : Prop
  | kept (loaded : t'.loaded timer = t.loaded timer) (period : t'.period timer = t.period timer)
      (calls : calls = [])
  | stopped (loaded : t'.loaded timer = false) (calls : calls = [.cancel timer])
  | started (p : Period) (loaded : t'.loaded timer = true) (period : t'.period timer = some p)
      (calls : calls = [.schedule timer p])

/-! ### A counter that is replaced -/

section Replaced

variable (t : TimerBlock) (i : Fin 3) (c : Counter) {timer : Timer}

theorem loaded_set :
    (t.setCounter i c).loaded timer = true ↔
      ∀ j, timerOf j = timer → Counter.complete ≤ (if j = i then c else t.counter j).loadState := by
  simp only [loaded_iff, counter_setCounter]

theorem loaded_set_other (h : timerOf i ≠ timer) :
    (t.setCounter i c).loaded timer = t.loaded timer := by
  rw [Bool.eq_iff_iff, loaded_set, loaded_iff]
  refine forall_congr' fun j => imp_congr_right fun hj => ?_
  have hne : j ≠ i := by
    rintro rfl
    exact h hj
  rw [if_neg hne]

theorem loaded_set_alike
    (h : Counter.complete ≤ c.loadState ↔ Counter.complete ≤ (t.counter i).loadState) :
    (t.setCounter i c).loaded timer = t.loaded timer := by
  rw [Bool.eq_iff_iff, loaded_set, loaded_iff]
  refine forall_congr' fun j => imp_congr_right fun _ => ?_
  by_cases hji : j = i
  · rw [if_pos hji, hji, h]
  · rw [if_neg hji]

theorem loaded_set_incomplete (hi : timerOf i = timer) (h : c.loadState < Counter.complete) :
    (t.setCounter i c).loaded timer = false := by
  rw [← Bool.not_eq_true, loaded_set]
  intro hall
  have hcomplete := hall i hi
  rw [if_pos rfl] at hcomplete
  omega

end Replaced

theorem period_setPeriod (t : TimerBlock) (timer other : Timer) (p : Period) :
    (t.setPeriod timer p).period other = if other = timer then some p else t.period other := by
  cases timer <;> cases other <;> rfl

theorem loaded_setPeriod (t : TimerBlock) (timer other : Timer) (p : Period) :
    (t.setPeriod timer p).loaded other = t.loaded other := by
  cases timer <;> cases other <;> rfl

/-! ### Control words -/

theorem program_incomplete (c : Counter) (control : UInt8) :
    (c.program control).loadState < Counter.complete := by
  unfold Counter.program
  dsimp only
  split <;> decide

theorem writeControl_counters (t : TimerBlock) (value : UInt8) {i : Fin 3}
    (h : counter? (value >>> 6) = some i) :
    (t.writeControl value).1 = t.setCounter i ((t.counter i).program value) := by
  simp only [writeControl, h]
  rfl

theorem writeControl_callsFor (t : TimerBlock) (value : UInt8) (timer : Timer) :
    Effect.callsFor timer (t.writeControl value).2 =
      match counter? (value >>> 6) with
      | none => []
      | some i => if timerOf i = timer then [.cancel timer] else [] := by
  have hunsupported : Effect.callsFor timer
      (if isRateGenerator value then [] else [.note (.timerModeUnsupported value)]) = [] := by
    split <;> rfl
  unfold writeControl
  dsimp only
  cases counter? (value >>> 6) with
  | none => simp only [Effect.callsFor_append, hunsupported, Effect.callsFor_note,
      Effect.callsFor_nil, List.append_nil]
  | some i =>
    simp only [Effect.callsFor_append, hunsupported, List.nil_append]
    by_cases hi : timerOf i = timer
    · rw [if_pos hi, hi]
      exact Effect.callsFor_one _ _ (by simp [HostCall.isFor])
    · rw [if_neg hi]
      exact Effect.callsFor_other _ _ (by simp [HostCall.isFor, hi])

theorem writeControl_stops (t : TimerBlock) (value : UInt8) {i : Fin 3}
    (h : counter? (value >>> 6) = some i) :
    (t.writeControl value).1.loaded (timerOf i) = false := by
  rw [t.writeControl_counters value h]
  exact t.loaded_set_incomplete i _ rfl (program_incomplete _ value)

theorem writeControl_outcome (t : TimerBlock) (value : UInt8) (timer : Timer) :
    Outcome t (t.writeControl value).1 timer (Effect.callsFor timer (t.writeControl value).2) := by
  have hcalls := t.writeControl_callsFor value timer
  cases h : counter? (value >>> 6) with
  | none =>
    rw [h] at hcalls
    have hsame : (t.writeControl value).1 = t := by simp only [writeControl, h]
    rw [hsame]
    exact .kept rfl rfl hcalls
  | some i =>
    simp only [h] at hcalls
    by_cases hi : timerOf i = timer
    · rw [if_pos hi] at hcalls
      exact .stopped (hi ▸ t.writeControl_stops value h) hcalls
    · rw [if_neg hi] at hcalls
      rw [t.writeControl_counters value h] at *
      exact .kept (t.loaded_set_other i _ hi) (by cases timer <;> rfl) hcalls

theorem loaded_of_writeControl (t : TimerBlock) {value : UInt8} {timer : Timer}
    (h : (t.writeControl value).1.loaded timer = true) : t.loaded timer = true := by
  cases t.writeControl_outcome value timer with
  | kept loaded => rwa [loaded] at h
  | stopped loaded => rw [loaded] at h; cases h
  | started p loaded period calls =>
    rw [t.writeControl_callsFor value timer] at calls
    split at calls
    · cases calls
    · split at calls <;> cases calls

/-! ### Bytes of counts -/

theorem merge_loadState (c : Counter) (value : UInt8) :
    (c.merge value).loadState =
      if c.loadState + 1 ≤ Counter.last then c.loadState + 1 else Counter.parked := rfl

theorem merge_complete (c : Counter) (value : UInt8) :
    (c.merge value).loadState = Counter.complete ↔ c.loadState + 1 = Counter.complete := by
  rw [merge_loadState]
  split
  · rfl
  · simp only [Counter.last, Counter.parked, Counter.complete] at *
    omega

theorem merge_alike {c : Counter} {value : UInt8}
    (h : (c.merge value).loadState ≠ Counter.complete) :
    Counter.complete ≤ (c.merge value).loadState ↔ Counter.complete ≤ c.loadState := by
  rw [merge_loadState] at *
  by_cases hlast : c.loadState + 1 ≤ Counter.last
  · rw [if_pos hlast] at *
    omega
  · rw [if_neg hlast] at *
    simp only [Counter.last, Counter.parked, Counter.complete] at *
    omega

theorem periodNow_congr {t t' : TimerBlock}
    (h : ∀ j : Fin 3, (t.counter j).divisor = (t'.counter j).divisor) (timer : Timer) :
    t.periodNow timer = t'.periodNow timer := by
  have h0 : t.counters[0].divisor = t'.counters[0].divisor := h 0
  have h1 : t.counters[1].divisor = t'.counters[1].divisor := h 1
  have h2 : t.counters[2].divisor = t'.counters[2].divisor := h 2
  cases timer with
  | a => rw [periodNow, periodNow, h0]
  | b => rw [periodNow, periodNow, h1, h2]

theorem writeData_eq (t : TimerBlock) (i : Fin 3) (value : UInt8) :
    t.writeData i value =
      let merged := (t.counter i).merge value
      let now := t.setCounter i merged
      let parked := t.setCounter i merged.park
      if merged.loadState = Counter.complete then
        if now.loaded (timerOf i) then
          (parked.setPeriod (timerOf i) (now.periodNow (timerOf i)),
            [.call (.schedule (timerOf i) (now.periodNow (timerOf i)))])
        else (parked, [])
      else (now, []) := by
  unfold writeData setCounter
  simp only [Vector.set_set]
  rfl

theorem writeData_of_merge (t : TimerBlock) {i : Fin 3} {value : UInt8}
    (h : ((t.counter i).merge value).loadState ≠ Counter.complete) :
    t.writeData i value = (t.setCounter i ((t.counter i).merge value), []) := by
  rw [writeData_eq]
  exact if_neg h

/-- The block in which counter `i` has its whole count and is parked. -/
def filled (t : TimerBlock) (i : Fin 3) (value : UInt8) : TimerBlock :=
  t.setCounter i ((t.counter i).merge value).park

theorem writeData_of_complete (t : TimerBlock) {i : Fin 3} {value : UInt8}
    (h : ((t.counter i).merge value).loadState = Counter.complete) :
    t.writeData i value =
      if (t.filled i value).loaded (timerOf i) = true then
        ((t.filled i value).setPeriod (timerOf i) ((t.filled i value).periodNow (timerOf i)),
          [.call (.schedule (timerOf i) ((t.filled i value).periodNow (timerOf i)))])
      else (t.filled i value, []) := by
  have hloaded : (t.setCounter i ((t.counter i).merge value)).loaded (timerOf i) =
      (t.filled i value).loaded (timerOf i) := by
    rw [Bool.eq_iff_iff, filled, loaded_set, loaded_set]
    refine forall_congr' fun j => imp_congr_right fun _ => ?_
    by_cases hji : j = i
    · rw [if_pos hji, if_pos hji, h]
      exact iff_of_true (Nat.le_refl _) (Nat.le_succ _)
    · simp [hji]
  have hperiod : (t.setCounter i ((t.counter i).merge value)).periodNow (timerOf i) =
      (t.filled i value).periodNow (timerOf i) := by
    refine periodNow_congr (fun j => ?_) _
    rw [filled, counter_setCounter, counter_setCounter]
    split <;> rfl
  rw [writeData_eq]
  simp only [h, if_true, hloaded, hperiod]
  rfl

theorem filled_loaded_of_ne (t : TimerBlock) (i : Fin 3) (value : UInt8) {timer : Timer}
    (h : timerOf i ≠ timer) : (t.filled i value).loaded timer = t.loaded timer :=
  t.loaded_set_other i _ h

theorem writeData_outcome (t : TimerBlock) (i : Fin 3) (value : UInt8) (timer : Timer) :
    Outcome t (t.writeData i value).1 timer
      (Effect.callsFor timer (t.writeData i value).2) := by
  by_cases h : ((t.counter i).merge value).loadState = Counter.complete
  · rw [t.writeData_of_complete h]
    by_cases hloaded : (t.filled i value).loaded (timerOf i) = true
    · rw [if_pos hloaded]
      by_cases hi : timerOf i = timer
      · subst hi
        refine .started _ ?_ ?_ (Effect.callsFor_one _ _ (by simp [HostCall.isFor]))
        · rw [loaded_setPeriod, hloaded]
        · rw [period_setPeriod, if_pos rfl]
      · refine .kept ?_ ?_ (Effect.callsFor_other _ _ (by simp [HostCall.isFor, hi]))
        · rw [loaded_setPeriod, t.filled_loaded_of_ne i value hi]
        · rw [period_setPeriod, if_neg (Ne.symm hi)]
          rfl
    · rw [if_neg hloaded]
      refine .kept ?_ (by cases timer <;> rfl) rfl
      by_cases hi : timerOf i = timer
      · subst hi
        have hbefore : t.loaded (timerOf i) = false := by
          rw [← Bool.not_eq_true, loaded_iff]
          intro hall
          have hplace := hall i rfl
          rw [merge_complete] at h
          omega
        rw [hbefore, Bool.not_eq_true _ |>.mp hloaded]
      · exact t.filled_loaded_of_ne i value hi
  · rw [t.writeData_of_merge h]
    exact .kept (t.loaded_set_alike i _ (merge_alike h)) (by cases timer <;> rfl) rfl

theorem lacks_of_writeData {t : TimerBlock} {i : Fin 3} {value : UInt8} {timer : Timer}
    (hbefore : t.loaded timer = false) (hafter : (t.writeData i value).1.loaded timer = true) :
    t.Lacks timer i := by
  by_cases h : ((t.counter i).merge value).loadState = Counter.complete
  · have hfilled : (t.filled i value).loaded timer = true := by
      rw [t.writeData_of_complete h] at hafter
      split at hafter
      · rwa [loaded_setPeriod] at hafter
      · exact hafter
    have hi : timerOf i = timer := by
      refine Decidable.byContradiction fun hne => ?_
      rw [t.filled_loaded_of_ne i value hne, hbefore] at hfilled
      cases hfilled
    refine ⟨hi, (merge_complete _ value).1 h, fun j hj hji => ?_⟩
    rw [filled, loaded_set] at hfilled
    have hplace := hfilled j hj
    rwa [if_neg hji] at hplace
  · rw [t.writeData_of_merge h, t.loaded_set_alike i _ (merge_alike h), hbefore] at hafter
    cases hafter

end TimerBlock

/-! ## The block at an event -/

/-- What an event makes of the block, and what it asks of the host for the timers. -/
def TimerBlock.react (t : TimerBlock) : DeviceEvent → TimerBlock × List Effect
  | .hostWrite offset value =>
    match counterAt offset with
    | some i => t.writeData i value
    | none => if offset &&& 0x0F = 7 then t.writeControl value else (t, [])
  | .timerExpired timer =>
    (t, ((t.period timer).map fun p => Effect.call (.schedule timer p)).toList)
  | .cardRead _ | .cardWrite _ _ | .hostRead _ | .midi _ => (t, [])

namespace TimerBlock

theorem react_outcome (t : TimerBlock) {e : DeviceEvent} (h : e.isAccess = true) (timer : Timer) :
    Outcome t (t.react e).1 timer (Effect.callsFor timer (t.react e).2) := by
  cases e with
  | hostWrite offset value =>
    cases hcounter : counterAt offset with
    | some i => simpa only [react, hcounter] using t.writeData_outcome i value timer
    | none =>
      simp only [react, hcounter]
      split
      · exact t.writeControl_outcome value timer
      · exact .kept rfl rfl rfl
  | timerExpired fired => cases h
  | cardRead port | cardWrite port value | hostRead offset | midi chunk => exact .kept rfl rfl rfl

theorem react_expired (t : TimerBlock) (fired timer : Timer) :
    Effect.callsFor timer (t.react (.timerExpired fired)).2 =
      if fired = timer then ((t.period fired).map (HostCall.schedule fired)).toList else [] := by
  rw [react]
  cases t.period fired with
  | none => simp
  | some p =>
    by_cases h : fired = timer
    · rw [if_pos h]
      exact Effect.callsFor_one timer _ (by simp [HostCall.isFor, h])
    · rw [if_neg h]
      exact Effect.callsFor_other timer _ (by simp [HostCall.isFor, h])

theorem react_stops (t : TimerBlock) {e : DeviceEvent} {timer : Timer} (h : e.Stops timer) :
    (t.react e).1.loaded timer = false := by
  obtain ⟨word, i, hword, hi, rfl⟩ := h
  cases e with
  | hostWrite offset value =>
    obtain ⟨hoffset, rfl⟩ : offset &&& 0x0F = 7 ∧ value = word := by
      simpa [DeviceEvent.timerWord?] using hword
    have hcounter := counterAt_of_word offset hoffset
    simp only [react, hcounter, if_pos hoffset]
    exact t.writeControl_stops value hi
  | cardRead | cardWrite | hostRead | timerExpired | midi => cases hword

/-- A timer comes to have all its counts by the byte that it lacked. -/
theorem lacks_of_react {t : TimerBlock} {e : DeviceEvent} {timer : Timer}
    (hbefore : t.loaded timer = false) (hafter : (t.react e).1.loaded timer = true) :
    ∃ i value, e.counterByte? = some (i, value) ∧ t.Lacks timer i := by
  cases e with
  | hostWrite offset value =>
    cases hcounter : counterAt offset with
    | some i =>
      simp only [react, hcounter] at hafter
      exact ⟨i, value, by simp [DeviceEvent.counterByte?, hcounter],
        lacks_of_writeData hbefore hafter⟩
    | none =>
      simp only [react, hcounter] at hafter
      split at hafter
      · rw [t.loaded_of_writeControl hafter] at hbefore
        cases hbefore
      · rw [hbefore] at hafter
        cases hafter
  | cardRead | cardWrite | hostRead | timerExpired | midi =>
    rw [react, hbefore] at hafter
    cases hafter

end TimerBlock

/-! ## The devices -/

theorem ofOffset_counterAt (offset : UInt8) :
    counterAt offset =
      match HostWrite.ofOffset offset with
      | .timer address => TimerBlock.counter? (address &&& 3)
      | _ => none := by
  revert offset
  exact forall_byte (by decide +kernel)

theorem ofOffset_timerWord (offset : UInt8) :
    (offset &&& 0x0F == 7) =
      match HostWrite.ofOffset offset with
      | .timer address => (TimerBlock.counter? (address &&& 3)).isNone
      | _ => false := by
  revert offset
  exact forall_byte (by decide +kernel)

namespace Device

variable {χ : Type}

theorem settle_timers (d : Device χ) : d.settle.1.timers = d.timers := rfl

theorem settle_callsFor (d : Device χ) (timer : Timer) :
    Effect.callsFor timer d.settle.2 = [] := by
  unfold settle HostInterrupt.update
  dsimp only
  split
  · rfl
  · split <;> rfl

theorem control_timers (d : Device χ) (side : Side) (word : UInt8) (timer : Timer) :
    (d.control side word).1.timers = d.timers ∧
      Effect.callsFor timer (d.control side word).2 = [] := by
  unfold control
  cases ControlWord.decode side word with
  | mode value supported => cases supported <;> exact ⟨rfl, rfl⟩
  | set flag on => exact ⟨rfl, settle_callsFor _ timer⟩
  | unmapped field => exact ⟨rfl, rfl⟩

variable [FmChip χ]

/-- The event leaves the block as `t` and asks for `timer` what `effects` ask for it. -/
structure Turns (d : Device χ) (e : DeviceEvent) (timer : Timer) (t : TimerBlock)
    (effects : List Effect) : Prop where
  timers : (d.after e).timers = t
  calls : Effect.callsFor timer (d.effectsOf e) = Effect.callsFor timer effects

theorem cardRead_turns (d : Device χ) (port : UInt8) (timer : Timer) :
    d.Turns (.cardRead port) timer d.timers [] := by
  constructor
  case timers =>
    simp only [after, perform, cardRead, answerCard]
    cases CardRead.ofPort port <;> rfl
  case calls =>
    simp only [effectsOf, perform, cardRead, answerCard]
    cases CardRead.ofPort port with
    | takeHostToCard => simp only [Effect.callsFor_append, settle_callsFor, Effect.callsFor_note,
        Effect.callsFor_nil, List.append_nil]
    | fmStatus | midi odd | peekCardToHost | piuStatus | unmapped => rfl

theorem cardWrite_turns (d : Device χ) (port value : UInt8) (timer : Timer) :
    d.Turns (.cardWrite port value) timer d.timers [] := by
  constructor
  case timers =>
    simp only [after, perform, cardWrite, acceptCard]
    cases CardWrite.ofPort port with
    | piuControl => exact (d.control_timers .card value timer).1
    | fmAddress | fmData | midi odd | putCardToHost | unmapped => rfl
  case calls =>
    simp only [effectsOf, perform, cardWrite, acceptCard, Effect.callsFor_note]
    cases CardWrite.ofPort port with
    | fmData => exact Effect.callsFor_of_calls (Effect.calls_notes _) timer
    | midi odd => exact Effect.callsFor_of_calls (d.usart.calls_write odd value) timer
    | putCardToHost => exact settle_callsFor _ timer
    | piuControl => exact (d.control_timers .card value timer).2
    | fmAddress | unmapped => rfl

theorem hostRead_turns (d : Device χ) (offset : UInt8) (timer : Timer) :
    d.Turns (.hostRead offset) timer d.timers [] := by
  constructor
  case timers =>
    simp only [after, perform, hostRead, answerHost]
    cases HostRead.ofOffset offset <;> rfl
  case calls =>
    simp only [effectsOf, perform, hostRead, answerHost]
    cases HostRead.ofOffset offset with
    | takeCardToHost => simp only [Effect.callsFor_append, settle_callsFor, Effect.callsFor_note,
        Effect.callsFor_nil, List.append_nil]
    | peekHostToCard | piuStatus | timer address | timerStatus | unmapped => rfl

theorem hostWrite_turns (d : Device χ) (offset value : UInt8) (timer : Timer) :
    d.Turns (.hostWrite offset value) timer (d.timers.react (.hostWrite offset value)).1
      (d.timers.react (.hostWrite offset value)).2 := by
  have hcounter := ofOffset_counterAt offset
  have hword := ofOffset_timerWord offset
  simp only [TimerBlock.react]
  cases h : HostWrite.ofOffset offset with
  | timer address =>
    simp only [h] at hcounter hword
    rw [hcounter]
    cases hi : TimerBlock.counter? (address &&& 3) with
    | none =>
      rw [hi, Option.isNone_none, beq_iff_eq] at hword
      constructor <;>
        simp [after, effectsOf, perform, hostWrite, acceptHost, h, TimerBlock.write, hi, hword]
    | some i =>
      constructor <;>
        simp [after, effectsOf, perform, hostWrite, acceptHost, h, TimerBlock.write, hi]
  | putHostToCard | timerControl | unmapped =>
    simp only [h, beq_eq_false_iff_ne] at hcounter hword
    simp only [hcounter, if_neg hword]
    constructor
    case timers => simp only [after, perform, hostWrite, acceptHost, h, settle_timers]
    case calls => simp [effectsOf, perform, hostWrite, acceptHost, h, settle_callsFor]
  | piuControl =>
    simp only [h, beq_eq_false_iff_ne] at hcounter hword
    simp only [hcounter, if_neg hword]
    obtain ⟨htimers, hcalls⟩ := d.control_timers .host value timer
    constructor
    case timers => simpa only [after, perform, hostWrite, acceptHost, h] using htimers
    case calls => simp [effectsOf, perform, hostWrite, acceptHost, h, hcalls]

theorem timerExpired_turns (d : Device χ) (fired timer : Timer) :
    d.Turns (.timerExpired fired) timer (d.timers.react (.timerExpired fired)).1
      (d.timers.react (.timerExpired fired)).2 := by
  constructor
  case timers => rfl
  case calls =>
    have hnote : Effect.callsFor timer (if (d.interrupt.fire fired).1 = true then
        [.note (.timerPending fired)] else []) = [] := by
      split <;> rfl
    simp only [effectsOf, perform, timerExpired, Effect.callsFor_append, settle_timers, hnote,
      settle_callsFor, List.nil_append, TimerBlock.react]
    cases d.timers.period fired <;> rfl

theorem turns (d : Device χ) (e : DeviceEvent) (timer : Timer) :
    d.Turns e timer (d.timers.react e).1 (d.timers.react e).2 := by
  cases e with
  | cardRead port => exact d.cardRead_turns port timer
  | cardWrite port value => exact d.cardWrite_turns port value timer
  | hostRead offset => exact d.hostRead_turns offset timer
  | hostWrite offset value => exact d.hostWrite_turns offset value timer
  | timerExpired fired => exact d.timerExpired_turns fired timer
  | midi chunk =>
    exact ⟨rfl, Effect.callsFor_of_calls (d.usart.calls_enqueue chunk) timer⟩

end Device

end FeatureCard
