import FeatureCard.Proofs.Byte
import FeatureCard.Proofs.Device

/-!
# The mailboxes and their history

What either side finds in a mailbox follows from the accesses so far: the byte is the last one put
there, it waits until it is taken, and each flag is as the last control word that names it left it.
-/

namespace FeatureCard

open Fm (FmChip)
open PortMap

/-! ## The accesses that concern the link -/

namespace DeviceEvent

def hostPut? : DeviceEvent → Option UInt8
  | .hostWrite offset value => if offset &&& 0x0F = 1 then some value else none
  | _ => none

def cardTakes : DeviceEvent → Bool
  | .cardRead port => port &&& 0x3F == 0x21
  | _ => false

def cardPut? : DeviceEvent → Option UInt8
  | .cardWrite port value => if port &&& 0x3F = 0x20 then some value else none
  | _ => none

def hostTakes : DeviceEvent → Bool
  | .hostRead offset => offset &&& 0x0F == 0
  | _ => false

def controlWord? : Side → DeviceEvent → Option UInt8
  | .card, .cardWrite port value => if port &&& 0x3F = 0x23 then some value else none
  | .host, .hostWrite offset value => if offset &&& 0x0F = 3 then some value else none
  | _, _ => none

end DeviceEvent

namespace PiuFlag

def side : PiuFlag → Side
  | .hostToCardRx | .cardToHostTx | .extra => .card
  | .hostToCardTx | .cardToHostRx => .host

/-- The bits of a control word that name the flag, bit 7 being clear. -/
def code : PiuFlag → UInt8
  | .hostToCardRx => 0x04
  | .hostToCardTx => 0x04
  | .cardToHostRx => 0x08
  | .cardToHostTx => 0x0C
  | .extra => 0x0A

/-- What an event sets the flag to, if it is a control word that names it. -/
def setBy? (flag : PiuFlag) (e : DeviceEvent) : Option Bool :=
  match e.controlWord? flag.side with
  | some word => if word &&& 0x8E = flag.code then some (word &&& 1 == 1) else none
  | none => none

end PiuFlag

namespace Piu

def flag (p : Piu) : PiuFlag → Bool
  | .hostToCardRx => p.hostToCard.rxGate
  | .hostToCardTx => p.hostToCard.txGate
  | .cardToHostRx => p.cardToHost.rxGate
  | .cardToHostTx => p.cardToHost.txGate
  | .extra => p.extra

def obey (p : Piu) (side : Side) (word : UInt8) : Piu :=
  match ControlWord.decode side word with
  | .set flag on => p.setFlag flag on
  | .mode _ _ | .unmapped _ => p

/-- The link after an event. -/
def react (p : Piu) : DeviceEvent → Piu
  | .cardRead port =>
    if port &&& 0x3F = 0x21 then { p with hostToCard := p.hostToCard.take.2 } else p
  | .cardWrite port value =>
    if port &&& 0x3F = 0x20 then { p with cardToHost := p.cardToHost.put value }
    else if port &&& 0x3F = 0x23 then p.obey .card value
    else p
  | .hostRead offset =>
    if offset &&& 0x0F = 0 then { p with cardToHost := p.cardToHost.take.2 } else p
  | .hostWrite offset value =>
    if offset &&& 0x0F = 1 then { p with hostToCard := p.hostToCard.put value }
    else if offset &&& 0x0F = 3 then p.obey .host value
    else p
  | .timerExpired _ => p
  | .midi _ => p

end Piu

/-! ## The ports of the link -/

theorem ofPort_takeHostToCard (port : UInt8) :
    CardRead.ofPort port = .takeHostToCard ↔ port &&& 0x3F = 0x21 := by
  revert port
  exact forall_byte (by decide +kernel)

theorem ofPort_putCardToHost (port : UInt8) :
    CardWrite.ofPort port = .putCardToHost ↔ port &&& 0x3F = 0x20 := by
  revert port
  exact forall_byte (by decide +kernel)

theorem ofPort_piuControl (port : UInt8) :
    CardWrite.ofPort port = .piuControl ↔ port &&& 0x3F = 0x23 := by
  revert port
  exact forall_byte (by decide +kernel)

theorem ofOffset_takeCardToHost (offset : UInt8) :
    HostRead.ofOffset offset = .takeCardToHost ↔ offset &&& 0x0F = 0 := by
  revert offset
  exact forall_byte (by decide +kernel)

theorem ofOffset_putHostToCard (offset : UInt8) :
    HostWrite.ofOffset offset = .putHostToCard ↔ offset &&& 0x0F = 1 := by
  revert offset
  exact forall_byte (by decide +kernel)

theorem ofOffset_piuControl (offset : UInt8) :
    HostWrite.ofOffset offset = .piuControl ↔ offset &&& 0x0F = 3 := by
  revert offset
  exact forall_byte (by decide +kernel)

theorem decode_set (side : Side) (word : UInt8) (flag : PiuFlag) (on : Bool) :
    ControlWord.decode side word = .set flag on ↔
      flag.side = side ∧ word &&& 0x8E = flag.code ∧ (word &&& 1 == 1) = on := by
  revert word
  cases side <;> cases flag <;> cases on <;> exact forall_byte (by decide +kernel)

/-! ## What an event does to the link -/

theorem Device.control_piu {χ : Type} (d : Device χ) (side : Side) (word : UInt8) :
    (d.control side word).1.piu = d.piu.obey side word := by
  unfold control Piu.obey
  cases ControlWord.decode side word with
  | mode value supported => cases supported <;> rfl
  | set flag on => rfl
  | unmapped field => rfl

theorem Device.after_piu {χ : Type} [FmChip χ] (d : Device χ) (e : DeviceEvent) :
    (d.after e).piu = d.piu.react e := by
  cases e with
  | cardRead port =>
    simp only [after, perform, cardRead, answerCard, Piu.react, ← ofPort_takeHostToCard]
    cases CardRead.ofPort port <;> rfl
  | cardWrite port value =>
    simp only [after, perform, cardWrite, acceptCard, Piu.react, ← ofPort_putCardToHost,
      ← ofPort_piuControl]
    cases CardWrite.ofPort port <;> first | rfl | exact d.control_piu .card value
  | hostRead offset =>
    simp only [after, perform, hostRead, answerHost, Piu.react, ← ofOffset_takeCardToHost]
    cases HostRead.ofOffset offset <;> rfl
  | hostWrite offset value =>
    simp only [after, perform, hostWrite, acceptHost, Piu.react, ← ofOffset_putHostToCard,
      ← ofOffset_piuControl]
    cases HostWrite.ofOffset offset <;> first | rfl | exact d.control_piu .host value
  | timerExpired timer => rfl
  | midi chunk => rfl

/-! ## What an event does to a mailbox and to a flag -/

/-- The byte of a mailbox and whether it waits, after a byte was put or the byte was taken. -/
def Mailbox.served (m : Mailbox) (put? : Option UInt8) (taken : Bool) : UInt8 × Bool :=
  match put? with
  | some value => (value, true)
  | none => (m.data, m.ready && !taken)

theorem Mailbox.served_data (m : Mailbox) (put? : Option UInt8) (taken : Bool) :
    (m.served put? taken).1 = put?.getD m.data := by
  cases put? <;> rfl

theorem Mailbox.served_ready (m : Mailbox) (put? : Option UInt8) (taken : Bool) :
    (m.served put? taken).2 = (put?.isSome || m.ready && !taken) := by
  cases put? <;> rfl

namespace Piu

theorem flag_setFlag (p : Piu) (flag other : PiuFlag) (on : Bool) :
    (p.setFlag flag on).flag other = if other = flag then on else p.flag other := by
  cases flag <;> cases other <;> rfl

theorem obey_content (p : Piu) (side : Side) (word : UInt8) :
    (p.obey side word).hostToCard.data = p.hostToCard.data ∧
      (p.obey side word).hostToCard.ready = p.hostToCard.ready ∧
      (p.obey side word).cardToHost.data = p.cardToHost.data ∧
      (p.obey side word).cardToHost.ready = p.cardToHost.ready := by
  unfold obey
  cases ControlWord.decode side word with
  | mode value supported => exact ⟨rfl, rfl, rfl, rfl⟩
  | set flag on => cases flag <;> exact ⟨rfl, rfl, rfl, rfl⟩
  | unmapped field => exact ⟨rfl, rfl, rfl, rfl⟩

theorem flag_obey (p : Piu) (side : Side) (word : UInt8) (flag : PiuFlag) :
    (p.obey side word).flag flag =
      if flag.side = side ∧ word &&& 0x8E = flag.code then word &&& 1 == 1 else p.flag flag := by
  unfold obey
  by_cases hnames : flag.side = side ∧ word &&& 0x8E = flag.code
  · have hset := (decode_set side word flag _).2 ⟨hnames.1, hnames.2, rfl⟩
    simp only [hset, flag_setFlag, if_pos hnames, if_true]
  · rw [if_neg hnames]
    cases hdecode : ControlWord.decode side word with
    | mode value supported => rfl
    | unmapped field => rfl
    | set named on =>
      obtain ⟨hside, hcode, -⟩ := (decode_set side word named on).1 hdecode
      have hne : flag ≠ named := by
        rintro rfl
        exact hnames ⟨hside, hcode⟩
      rw [flag_setFlag, if_neg hne]

theorem react_hostToCard (p : Piu) (e : DeviceEvent) :
    ((p.react e).hostToCard.data, (p.react e).hostToCard.ready) =
      p.hostToCard.served e.hostPut? e.cardTakes := by
  unfold react DeviceEvent.hostPut? DeviceEvent.cardTakes Mailbox.served
  cases e with
  | cardRead port => by_cases h : port &&& 0x3F = 0x21 <;> simp [h, Mailbox.take]
  | cardWrite port value =>
    by_cases hput : port &&& 0x3F = 0x20
    · simp [hput]
    · by_cases hword : port &&& 0x3F = 0x23 <;> simp [hput, hword, p.obey_content]
  | hostRead offset => by_cases h : offset &&& 0x0F = 0 <;> simp [h]
  | hostWrite offset value =>
    by_cases hput : offset &&& 0x0F = 1
    · simp [hput, Mailbox.put]
    · by_cases hword : offset &&& 0x0F = 3 <;> simp [hput, hword, p.obey_content]
  | timerExpired timer => simp
  | midi chunk => simp

theorem react_cardToHost (p : Piu) (e : DeviceEvent) :
    ((p.react e).cardToHost.data, (p.react e).cardToHost.ready) =
      p.cardToHost.served e.cardPut? e.hostTakes := by
  unfold react DeviceEvent.cardPut? DeviceEvent.hostTakes Mailbox.served
  cases e with
  | cardRead port => by_cases h : port &&& 0x3F = 0x21 <;> simp [h]
  | cardWrite port value =>
    by_cases hput : port &&& 0x3F = 0x20
    · simp [hput, Mailbox.put]
    · by_cases hword : port &&& 0x3F = 0x23 <;> simp [hput, hword, p.obey_content]
  | hostRead offset => by_cases h : offset &&& 0x0F = 0 <;> simp [h, Mailbox.take]
  | hostWrite offset value =>
    by_cases hput : offset &&& 0x0F = 1
    · simp [hput]
    · by_cases hword : offset &&& 0x0F = 3 <;> simp [hput, hword, p.obey_content]
  | timerExpired timer => simp
  | midi chunk => simp

theorem flag_put (p : Piu) (flag : PiuFlag) (value : UInt8) :
    ({ p with hostToCard := p.hostToCard.put value } : Piu).flag flag = p.flag flag ∧
      ({ p with cardToHost := p.cardToHost.put value } : Piu).flag flag = p.flag flag := by
  cases flag <;> exact ⟨rfl, rfl⟩

theorem flag_take (p : Piu) (flag : PiuFlag) :
    ({ p with hostToCard := p.hostToCard.take.2 } : Piu).flag flag = p.flag flag ∧
      ({ p with cardToHost := p.cardToHost.take.2 } : Piu).flag flag = p.flag flag := by
  cases flag <;> exact ⟨rfl, rfl⟩

theorem react_flag (p : Piu) (e : DeviceEvent) (flag : PiuFlag) :
    (p.react e).flag flag = (flag.setBy? e).getD (p.flag flag) := by
  unfold react PiuFlag.setBy? DeviceEvent.controlWord?
  cases e with
  | cardRead port => by_cases h : port &&& 0x3F = 0x21 <;> simp [h, p.flag_take]
  | cardWrite port value =>
    by_cases hput : port &&& 0x3F = 0x20
    · cases flag.side <;> simp [hput, p.flag_put]
    · by_cases hword : port &&& 0x3F = 0x23
      · cases hside : flag.side with
        | card =>
          by_cases hcode : value &&& 0x8E = flag.code <;>
            simp [hword, hside, hcode, p.flag_obey]
        | host => simp [hword, hside, p.flag_obey]
      · cases flag.side <;> simp [hput, hword]
  | hostRead offset => by_cases h : offset &&& 0x0F = 0 <;> simp [h, p.flag_take]
  | hostWrite offset value =>
    by_cases hput : offset &&& 0x0F = 1
    · cases flag.side <;> simp [hput, p.flag_put]
    · by_cases hword : offset &&& 0x0F = 3
      · cases hside : flag.side with
        | card => simp [hword, hside, p.flag_obey]
        | host =>
          by_cases hcode : value &&& 0x8E = flag.code <;>
            simp [hword, hside, hcode, p.flag_obey]
      · cases flag.side <;> simp [hput, hword]
  | timerExpired timer => simp
  | midi chunk => simp

end Piu

/-! ## What the history of accesses says -/

/-- The last value that `value?` finds in a history, or `start` if there is none. -/
def lastOf {α : Type} (value? : DeviceEvent → Option α) (start : α)
    (history : List DeviceEvent) : α :=
  (history.filterMap value?).getLast?.getD start

/-- Some event of the history puts a byte, and none after it takes one. -/
def Waiting (put? : DeviceEvent → Option UInt8) (takes : DeviceEvent → Bool)
    (history : List DeviceEvent) : Prop :=
  ∃ before put after, history = before ++ put :: after ∧ (put? put).isSome = true ∧
    ∀ e ∈ after, takes e = false

theorem lastOf_cons {α : Type} (value? : DeviceEvent → Option α) (start : α) (e : DeviceEvent)
    (history : List DeviceEvent) :
    lastOf value? start (e :: history) = lastOf value? ((value? e).getD start) history := by
  unfold lastOf
  cases h : value? e with
  | none => rw [List.filterMap_cons_none h, Option.getD_none]
  | some value =>
    rw [List.filterMap_cons_some h, List.getLast?_cons, Option.getD_some, Option.getD_some]

theorem waiting_cons (put? : DeviceEvent → Option UInt8) (takes : DeviceEvent → Bool)
    (e : DeviceEvent) (history : List DeviceEvent) :
    Waiting put? takes (e :: history) ↔
      ((put? e).isSome = true ∧ ∀ e ∈ history, takes e = false) ∨ Waiting put? takes history := by
  constructor
  · rintro ⟨before, put, after, hsplit, hput, htakes⟩
    cases before with
    | nil =>
      obtain ⟨rfl, rfl⟩ := List.cons.inj hsplit
      exact .inl ⟨hput, htakes⟩
    | cons first before =>
      obtain ⟨rfl, rfl⟩ := List.cons.inj hsplit
      exact .inr ⟨before, put, after, rfl, hput, htakes⟩
  · rintro (⟨hput, htakes⟩ | ⟨before, put, after, rfl, hput, htakes⟩)
    · exact ⟨[], e, history, rfl, hput, htakes⟩
    · exact ⟨e :: before, put, after, rfl, hput, htakes⟩

namespace Device

variable {χ : Type} [FmChip χ]

/-- What each event sets to its own value or leaves alone is, after a run, the last value set. -/
theorem lastOf_afterAll {α : Type} (part : Device χ → α) {value? : DeviceEvent → Option α}
    (h : ∀ (d : Device χ) e, part (d.after e) = (value? e).getD (part d))
    (d : Device χ) (history : List DeviceEvent) :
    part (d.afterAll history) = lastOf value? (part d) history := by
  induction history generalizing d with
  | nil => rfl
  | cons e history ih =>
    rw [lastOf_cons, ← h]
    exact ih (d.after e)

/-- What each put sets and each take clears is set after a run if something waits, or if it was set
before the run and nothing was taken. -/
theorem waiting_afterAll (ready : Device χ → Bool) {put? : DeviceEvent → Option UInt8}
    {takes : DeviceEvent → Bool}
    (h : ∀ (d : Device χ) e, ready (d.after e) = ((put? e).isSome || ready d && !takes e))
    (d : Device χ) (history : List DeviceEvent) :
    ready (d.afterAll history) = true ↔
      Waiting put? takes history ∨ ready d = true ∧ ∀ e ∈ history, takes e = false := by
  induction history generalizing d with
  | nil => simp [Waiting]
  | cons e history ih =>
    have hrun : d.afterAll (e :: history) = (d.after e).afterAll history := rfl
    rw [hrun, ih, h, waiting_cons]
    simp only [Bool.or_eq_true, Bool.and_eq_true, Bool.not_eq_true', List.forall_mem_cons]
    constructor
    · rintro (hw | ⟨hput | ⟨hready, htake⟩, hnone⟩)
      · exact .inl (.inr hw)
      · exact .inl (.inl ⟨hput, hnone⟩)
      · exact .inr ⟨hready, htake, hnone⟩
    · rintro ((⟨hput, hnone⟩ | hw) | ⟨hready, htake, hnone⟩)
      · exact .inr ⟨.inl hput, hnone⟩
      · exact .inl hw
      · exact .inr ⟨.inr ⟨hready, htake⟩, hnone⟩

/-- The mailboxes and flags are as a history of accesses left them. -/
structure LinkFollows (d : Device χ) (history : List DeviceEvent) : Prop where
  cardReads : ∀ port : UInt8, port &&& 0x3F = 0x21 →
    (d.perform (.cardRead port)).1 = .byte (lastOf DeviceEvent.hostPut? 0 history)
  hostToCard_ready : d.piu.hostToCard.ready = true ↔
    Waiting DeviceEvent.hostPut? DeviceEvent.cardTakes history
  hostReads : ∀ offset : UInt8, offset &&& 0x0F = 0 →
    (d.perform (.hostRead offset)).1 = .byte (lastOf DeviceEvent.cardPut? 0 history)
  cardToHost_ready : d.piu.cardToHost.ready = true ↔
    Waiting DeviceEvent.cardPut? DeviceEvent.hostTakes history
  /-- No event that neither puts nor takes touches a byte or its readiness. -/
  hostToCard_kept : ∀ e : DeviceEvent, e.hostPut? = none → e.cardTakes = false →
    (d.after e).piu.hostToCard.data = d.piu.hostToCard.data ∧
      (d.after e).piu.hostToCard.ready = d.piu.hostToCard.ready
  cardToHost_kept : ∀ e : DeviceEvent, e.cardPut? = none → e.hostTakes = false →
    (d.after e).piu.cardToHost.data = d.piu.cardToHost.data ∧
      (d.after e).piu.cardToHost.ready = d.piu.cardToHost.ready
  /-- Each flag is as the last control word that names it set it. -/
  flags : ∀ flag : PiuFlag, d.piu.flag flag = lastOf flag.setBy? false history

theorem served_afterAll {mailbox : Piu → Mailbox} {put? : DeviceEvent → Option UInt8}
    {takes : DeviceEvent → Bool}
    (h : ∀ p e, ((mailbox (p.react e)).data, (mailbox (p.react e)).ready) =
      (mailbox p).served (put? e) (takes e))
    (d : Device χ) (hready : (mailbox d.piu).ready = false) (history : List DeviceEvent) :
    (mailbox (d.afterAll history).piu).data = lastOf put? (mailbox d.piu).data history ∧
      ((mailbox (d.afterAll history).piu).ready = true ↔ Waiting put? takes history) := by
  constructor
  · refine lastOf_afterAll (fun d => (mailbox d.piu).data) (fun d e => ?_) d history
    rw [after_piu, ← Mailbox.served_data, ← h]
  · have hstep (d : Device χ) (e : DeviceEvent) : (mailbox (d.after e).piu).ready =
        ((put? e).isSome || (mailbox d.piu).ready && !takes e) := by
      rw [after_piu, ← Mailbox.served_ready, ← h]
    have hrun := waiting_afterAll (fun d => (mailbox d.piu).ready) hstep d history
    simpa [hready] using hrun

/-- From power-on on, the mailboxes and flags follow from the accesses alone. -/
theorem link_follows_accesses (irq : UInt8) (chip : χ) (history : List DeviceEvent) :
    ((powerOn irq chip).afterAll history).LinkFollows history := by
  obtain ⟨hostToCard_data, hostToCard_ready⟩ :=
    served_afterAll Piu.react_hostToCard (powerOn irq chip) rfl history
  obtain ⟨cardToHost_data, cardToHost_ready⟩ :=
    served_afterAll Piu.react_cardToHost (powerOn irq chip) rfl history
  constructor
  case cardReads =>
    intro port hport
    simp only [perform, cardRead, answerCard, (ofPort_takeHostToCard port).2 hport, Mailbox.take]
    rw [hostToCard_data]
    rfl
  case hostToCard_ready => exact hostToCard_ready
  case hostReads =>
    intro offset hoffset
    simp only [perform, hostRead, answerHost, (ofOffset_takeCardToHost offset).2 hoffset,
      Mailbox.take]
    rw [cardToHost_data]
    rfl
  case cardToHost_ready => exact cardToHost_ready
  case hostToCard_kept =>
    intro e hput htake
    have h := Piu.react_hostToCard ((powerOn irq chip).afterAll history).piu e
    rw [hput, htake, Mailbox.served, Bool.not_false, Bool.and_true, Prod.mk.injEq] at h
    rw [after_piu]
    exact h
  case cardToHost_kept =>
    intro e hput htake
    have h := Piu.react_cardToHost ((powerOn irq chip).afterAll history).piu e
    rw [hput, htake, Mailbox.served, Bool.not_false, Bool.and_true, Prod.mk.injEq] at h
    rw [after_piu]
    exact h
  case flags =>
    intro flag
    have hstart : (powerOn irq chip).piu.flag flag = false := by cases flag <;> rfl
    rw [← hstart]
    refine lastOf_afterAll (fun d => d.piu.flag flag) (fun d e => ?_) _ history
    rw [after_piu]
    exact d.piu.react_flag e flag

end Device

end FeatureCard
