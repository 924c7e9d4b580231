import Mathlib.Data.List.DropRight
import FeatureCard.Proofs.MidiQueue
import FeatureCard.Proofs.PendingTimers

/-!
# Set-up words and commands of the serial port

The processor writes words to the control register of the MIDI port. A word becomes the command if
at least three words came before it since power-on and since the last command that asked for a
reset. The words before that are consumed, whatever they hold. So the command depends on the words
alone, and the port's call for the processor on the command and on the host's last word for the
timer control register.
-/

namespace FeatureCard

open Fm (FmChip)
open Midi (Usart)
open PortMap

/-! ## Words for the control register -/

def DeviceEvent.usartWord? : DeviceEvent → Option UInt8
  | .cardWrite port value => if port &&& 0x31 = 0x11 then some value else none
  | _ => none

/-- A word for the control register, and whether it became the command. -/
structure UsartWord where
  value : UInt8
  taken : Bool
  deriving DecidableEq, Repr

namespace UsartWord

def command? (w : UsartWord) : Option UInt8 := if w.taken then some w.value else none

/-- The word became the command and asks for a reset. Set-up words never do. -/
def resets (w : UsartWord) : Bool := w.taken && w.value &&& 0x40 != 0

/-- The words after the last one that asked for a reset, or all words. -/
def sinceReset (words : List UsartWord) : List UsartWord := words.rtakeWhile fun w => !w.resets

theorem sinceReset_concat (words : List UsartWord) (w : UsartWord) :
    sinceReset (words ++ [w]) = if w.resets then [] else sinceReset words ++ [w] := by
  unfold sinceReset
  by_cases h : w.resets = true
  · rw [if_pos h, List.rtakeWhile_concat_neg _ _ _ (by simp [h])]
  · rw [if_neg h, List.rtakeWhile_concat_pos _ _ _ (by simp [h])]

end UsartWord

theorem ofPort_usartWord (port : UInt8) :
    CardWrite.ofPort port = .midi true ↔ port &&& 0x31 = 0x11 := by
  revert port
  exact forall_byte (by decide +kernel)

/-! ## What a word does -/

namespace Midi.Usart

/-- The command, and how many set-up words are still to come. -/
def setup (u : Usart) : UInt8 × Nat := (u.command, u.setupLeft)

/-- A word becomes the command unless a set-up word is due. -/
def obey (setup : UInt8 × Nat) (word : UInt8) : UInt8 × Nat :=
  if 0 < setup.2 then (setup.1, setup.2 - 1)
  else (word, if word &&& resetBit ≠ 0 then setupWords else setup.2)

theorem obey_of_due {setup : UInt8 × Nat} (h : 0 < setup.2) (word : UInt8) :
    obey setup word = (setup.1, setup.2 - 1) := if_pos h

theorem obey_of_done {setup : UInt8 × Nat} (h : setup.2 = 0) (word : UInt8) :
    obey setup word = (word, if word &&& 0x40 = 0 then 0 else 3) := by
  unfold obey resetBit setupWords
  rw [if_neg (Nat.not_lt.2 h.le), ite_not, h]

theorem setup_write (u : Usart) (word : UInt8) :
    (u.write true word).1.setup = obey u.setup word := by
  unfold write obey setup
  rw [if_neg (by decide)]
  split <;> rfl

theorem setup_write_data (u : Usart) (word : UInt8) : (u.write false word).1.setup = u.setup := rfl

theorem setup_read (u : Usart) (odd : Bool) (tcr : UInt8) : (u.read odd tcr).2.setup = u.setup := by
  cases odd <;> rfl

theorem write_of_setup {u : Usart} (h : 0 < u.setupLeft) (word : UInt8) :
    (u.write true word).1 = { u with setupLeft := u.setupLeft - 1 } := by
  unfold write
  rw [if_neg (by decide), if_pos h]

end Midi.Usart

namespace Device

variable {χ : Type} [FmChip χ]

theorem usart_word (d : Device χ) {port : UInt8} (h : port &&& 0x31 = 0x11) (word : UInt8) :
    (d.after (.cardWrite port word)).usart = (d.usart.write true word).1 := by
  simp only [after, perform, cardWrite, acceptCard, (ofPort_usartWord port).2 h]

theorem setup_after (d : Device χ) (e : DeviceEvent) :
    (d.after e).usart.setup = e.usartWord?.elim d.usart.setup (Usart.obey d.usart.setup) := by
  cases e with
  | cardRead port =>
    simp only [after, perform, cardRead, answerCard]
    cases CardRead.ofPort port with
    | midi odd => exact d.usart.setup_read odd _
    | fmStatus | peekCardToHost | takeHostToCard | piuStatus | unmapped => rfl
  | cardWrite port value =>
    by_cases hport : port &&& 0x31 = 0x11
    · rw [d.usart_word hport, Usart.setup_write, DeviceEvent.usartWord?, if_pos hport]
      rfl
    · rw [DeviceEvent.usartWord?, if_neg hport]
      rw [← ofPort_usartWord] at hport
      simp only [after, perform, cardWrite, acceptCard]
      cases hwrite : CardWrite.ofPort port with
      | midi odd =>
        cases odd with
        | true => exact absurd hwrite hport
        | false => exact d.usart.setup_write_data value
      | piuControl => rw [control_usart]; rfl
      | fmAddress | fmData | putCardToHost | unmapped => rfl
  | hostRead offset | hostWrite offset value | timerExpired timer =>
    rw [(d.after_of_not_onCard rfl).usart]
    rfl
  | midi chunk => rfl

theorem setup_afterAll (d : Device χ) (history : List DeviceEvent) :
    (d.afterAll history).usart.setup =
      (history.filterMap DeviceEvent.usartWord?).foldl Usart.obey d.usart.setup := by
  induction history generalizing d with
  | nil => rfl
  | cons e history ih =>
    have hrun : d.afterAll (e :: history) = (d.after e).afterAll history := rfl
    rw [hrun, ih, setup_after]
    cases h : e.usartWord? with
    | none => rw [List.filterMap_cons_none h]; rfl
    | some word => rw [List.filterMap_cons_some h]; rfl

/-! ## Which words become the command -/

/-- Whatever comes next for the control register becomes the command. -/
def TakesCommand (d : Device χ) : Prop :=
  ∀ port word : UInt8, port &&& 0x31 = 0x11 → (d.after (.cardWrite port word)).usart.command = word

theorem takesCommand_iff (d : Device χ) : d.TakesCommand ↔ d.usart.setupLeft = 0 := by
  constructor
  · intro h
    by_contra hdue
    -- A set-up word leaves the command, so a word other than the command tells the two apart.
    have hother : ∀ command : UInt8, command ≠ ~~~command := forall_byte (by decide +kernel)
    have htaken := h 0x11 (~~~d.usart.command) (by decide)
    rw [d.usart_word (by decide), Usart.write_of_setup (Nat.pos_of_ne_zero hdue)] at htaken
    exact hother _ htaken
  · intro hnone port word hport
    have hset := d.usart.setup_write word
    rw [Usart.obey_of_done hnone] at hset
    rw [d.usart_word hport]
    exact congrArg Prod.fst hset

instance (d : Device χ) : Decidable d.TakesCommand := decidable_of_iff' _ d.takesCommand_iff

/-- The words of a run, oldest first, each with what became of it. -/
def usartWords (d : Device χ) : List DeviceEvent → List UsartWord
  | [] => []
  | e :: history =>
    (e.usartWord?.map fun value => ⟨value, decide d.TakesCommand⟩).toList ++
      (d.after e).usartWords history

theorem usartWords_concat (d : Device χ) (history : List DeviceEvent) (e : DeviceEvent) :
    d.usartWords (history ++ [e]) = d.usartWords history ++
      (e.usartWord?.map fun value =>
        (⟨value, decide (d.afterAll history).TakesCommand⟩ : UsartWord)).toList := by
  induction history generalizing d with
  | nil => exact List.append_nil _
  | cons first history ih =>
    rw [List.cons_append, usartWords, ih, usartWords, List.append_assoc]
    rfl

/-- The command and the number of set-up words due, as a list of words leaves them. -/
def setupAfter (words : List UsartWord) : UInt8 × Nat :=
  ((latest? UsartWord.command? words).getD 0, 3 - (UsartWord.sinceReset words).length)

theorem obey_setupAfter (words : List UsartWord) (value : UInt8) :
    Usart.obey (setupAfter words) value =
      setupAfter (words ++ [⟨value, decide ((setupAfter words).2 = 0)⟩]) := by
  by_cases hnone : (setupAfter words).2 = 0
  · have hdone : 3 ≤ (UsartWord.sinceReset words).length := Nat.sub_eq_zero_iff_le.1 hnone
    rw [Usart.obey_of_done hnone, decide_eq_true hnone, setupAfter, latest?_concat,
      UsartWord.sinceReset_concat]
    by_cases hreset : value &&& 0x40 = 0
    · have hkeeps : (⟨value, true⟩ : UsartWord).resets = false := by simp [UsartWord.resets, hreset]
      rw [if_pos hreset, hkeeps, if_neg Bool.false_ne_true, List.length_append,
        Nat.sub_eq_zero_of_le (by omega)]
      rfl
    · have hresets : (⟨value, true⟩ : UsartWord).resets = true := by simp [UsartWord.resets, hreset]
      rw [if_neg hreset, hresets, if_pos rfl]
      rfl
  · rw [Usart.obey_of_due (Nat.pos_of_ne_zero hnone), decide_eq_false hnone, setupAfter, setupAfter,
      latest?_concat, UsartWord.sinceReset_concat, if_neg (by simp [UsartWord.resets]),
      List.length_append]
    rfl

theorem setup_powerOn (irq : UInt8) (chip : χ) (history : List DeviceEvent) :
    ((powerOn irq chip).afterAll history).usart.setup =
      setupAfter ((powerOn irq chip).usartWords history) := by
  induction history using List.reverseRecOn with
  | nil => rfl
  | append_singleton history e ih =>
    have htakes : decide ((powerOn irq chip).afterAll history).TakesCommand =
        decide ((setupAfter ((powerOn irq chip).usartWords history)).2 = 0) := by
      rw [← ih]
      exact decide_eq_decide.2 (takesCommand_iff _)
    rw [afterAll_concat, setup_after, usartWords_concat, htakes, ih]
    cases e.usartWord? with
    | none => exact congrArg setupAfter (List.append_nil _).symm
    | some value => exact obey_setupAfter _ value

/-! ## The command and the interrupt -/

/-- The port has the command that a history leaves from `start` on, it takes or consumes the next
word as the history asks, and it calls for the processor accordingly. -/
structure CommandFollows (start d : Device χ) (history : List DeviceEvent) : Prop where
  takes_iff : d.TakesCommand ↔ 3 ≤ (UsartWord.sinceReset (start.usartWords history)).length
  /-- A word that is not taken is consumed, whatever it is. -/
  consumes : ¬d.TakesCommand → ∀ port word : UInt8, port &&& 0x31 = 0x11 →
    (d.after (.cardWrite port word)).usart.command = d.usart.command ∧
      ∀ other, (d.after (.cardWrite port other)).usart = (d.after (.cardWrite port word)).usart
  command : d.usart.command =
    (latest? UsartWord.command? (start.usartWords history)).getD 0
  /-- No other event touches the command, or whether the next word is taken. -/
  kept : ∀ e : DeviceEvent, e.usartWord? = none →
    (d.after e).usart.command = d.usart.command ∧ ((d.after e).TakesCommand ↔ d.TakesCommand)
  /-- Only the words count, not what stands between them or waits in the queue. -/
  words : ∀ other : List DeviceEvent,
    other.filterMap DeviceEvent.usartWord? = history.filterMap DeviceEvent.usartWord? →
      (start.afterAll other).usart.command = d.usart.command ∧
        ((start.afterAll other).TakesCommand ↔ d.TakesCommand)
  interrupt : d.usart.interrupt d.interrupt.tcr = true ↔
    d.usart.command &&& 0x01 ≠ 0 ∧ lastOf DeviceEvent.tcrWord? 0 history &&& 0x10 = 0
  attention : ∀ fmEvent : Bool, d.attentionLine fmEvent = true ↔
    fmEvent = true ∨ d.piu.hostToCard.rxInterrupt = true ∨ d.piu.cardToHost.txInterrupt = true ∨
      d.usart.interrupt d.interrupt.tcr = true

theorem same_of_setup {d other : Device χ} (h : other.usart.setup = d.usart.setup) :
    other.usart.command = d.usart.command ∧ (other.TakesCommand ↔ d.TakesCommand) := by
  obtain ⟨hcommand, hleft⟩ := Prod.mk.inj h
  rw [takesCommand_iff, takesCommand_iff, hleft]
  exact ⟨hcommand, Iff.rfl⟩

/-- From power-on on, the commands of the serial port follow from the words that the processor wrote
to its control register. -/
theorem command_follows_words (irq : UInt8) (chip : χ) (history : List DeviceEvent) :
    (powerOn irq chip).CommandFollows ((powerOn irq chip).afterAll history) history := by
  have hsetup := setup_powerOn irq chip history
  constructor
  case takes_iff =>
    rw [takesCommand_iff, show Usart.setupLeft _ = _ from congrArg Prod.snd hsetup, setupAfter]
    exact Nat.sub_eq_zero_iff_le
  case consumes =>
    intro hsetting port word hport
    have hdue := Nat.pos_of_ne_zero ((takesCommand_iff _).not.1 hsetting)
    rw [usart_word _ hport, Usart.write_of_setup hdue]
    refine ⟨rfl, fun other => ?_⟩
    rw [usart_word _ hport, Usart.write_of_setup hdue]
  case command => exact congrArg Prod.fst hsetup
  case kept =>
    intro e hsilent
    apply same_of_setup
    rw [setup_after, hsilent]
    rfl
  case words =>
    intro other hwords
    apply same_of_setup
    rw [setup_afterAll, setup_afterAll, hwords]
  case interrupt =>
    have htcr : ((powerOn irq chip).afterAll history).interrupt.tcr =
        lastOf DeviceEvent.tcrWord? 0 history := tcr_afterAll _ history
    rw [Usart.interrupt_iff, htcr]
  case attention =>
    intro fmEvent
    simp only [attentionLine, FeatureCard.attention, Bool.or_eq_true, or_assoc]

end Device

end FeatureCard
