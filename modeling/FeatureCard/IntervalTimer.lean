import FeatureCard.Notice

/-!
# The interval timer

Three counters make two timers for the host. Timer A is counter 0 on a 500 kHz clock. Timer B is
counters 1 and 2 in a row on a 2 MHz clock, so its period is the product of both counts. The
counters do not run here: when a count is complete, the host is asked to fire the timer after that
time. There is no way to read a counter.
-/

namespace FeatureCard

inductive Access where
  | latchCount
  | lowByte
  | highByte
  | lowThenHigh
  deriving DecidableEq, Repr

def Access.ofControl (control : UInt8) : Access :=
  match (control >>> 4) &&& 3 with
  | 0 => .latchCount
  | 1 => .lowByte
  | 2 => .highByte
  | _ => .lowThenHigh

/-- A control word that selects the only mode this timer has: a rate generator, in binary. -/
def isRateGenerator (control : UInt8) : Bool :=
  control &&& 0x0D == 0x04

structure Counter where
  mode : UInt8 := 0
  latch : UInt16 := 0
  /-- The place in the loading sequence. -/
  loadState : Nat := 0
  deriving DecidableEq, Repr, Inhabited

namespace Counter

def complete : Nat := 3

def parked : Nat := 4

/-- The last place. A byte after it leads back to `parked`. -/
def last : Nat := 5

def access (c : Counter) : Access := .ofControl c.mode

/-- The count, where 0 stands for 65536. -/
def divisor (c : Counter) : Nat :=
  if c.latch = 0 then 65536 else c.latch.toNat

/-- Takes a control word. Two bytes are needed for low-then-high access, else one. -/
def program (c : Counter) (control : UInt8) : Counter :=
  let mode := control &&& 0x3F
  { c with mode, loadState := if Access.ofControl mode = .lowThenHigh then 1 else 2 }

def takesHigh (c : Counter) : Bool :=
  match c.access with
  | .lowThenHigh => c.loadState % 2 == 0
  | .highByte => true
  | .latchCount | .lowByte => false

def withHigh (latch : UInt16) (value : UInt8) : UInt16 :=
  (latch &&& (0x00FF : UInt16)) ||| (value.toUInt16 <<< (8 : UInt16))

def withLow (latch : UInt16) (value : UInt8) : UInt16 :=
  (latch &&& (0xFF00 : UInt16)) ||| value.toUInt16

def merge (c : Counter) (value : UInt8) : Counter where
  mode := c.mode
  latch := if c.takesHigh then withHigh c.latch value else withLow c.latch value
  loadState := if c.loadState + 1 ≤ last then c.loadState + 1 else parked

def park (c : Counter) : Counter := { c with loadState := parked }

end Counter

def timerAHertz : Nat := 500000

def timerBHertz : Nat := 2000000

/-- The block of three counters, and the period of each timer once it was loaded. -/
structure TimerBlock where
  counters : Vector Counter 3 := Vector.replicate 3 {}
  periodA : Option Period := none
  periodB : Option Period := none
  deriving DecidableEq, Repr, Inhabited

namespace TimerBlock

def powerOn : TimerBlock := {}

def period (t : TimerBlock) : Timer → Option Period
  | .a => t.periodA
  | .b => t.periodB

def setPeriod (t : TimerBlock) (timer : Timer) (p : Period) : TimerBlock :=
  match timer with
  | .a => { t with periodA := some p }
  | .b => { t with periodB := some p }

def timerOf (i : Fin 3) : Timer := if i = 0 then .a else .b

/-- The counter whose control word or data this is, none for the read-back command. -/
def counter? (select : UInt8) : Option (Fin 3) :=
  if h : select.toNat < 3 then some ⟨select.toNat, h⟩ else none

/-- What the counters of `timer` count together. -/
def periodNow (t : TimerBlock) : Timer → Period
  | .a => ⟨timerAHertz, t.counters[0].divisor⟩
  | .b => ⟨timerBHertz, t.counters[1].divisor * t.counters[2].divisor⟩

def loaded (t : TimerBlock) : Timer → Bool
  | .a => decide (Counter.complete ≤ t.counters[0].loadState)
  | .b => decide (Counter.complete ≤ t.counters[1].loadState) &&
      decide (Counter.complete ≤ t.counters[2].loadState)

/-- A counter cannot be read. -/
def read (_ : TimerBlock) (_address : UInt8) : UInt8 := 0

/-- Takes a control word. Its timer stops until it is loaded again. -/
def writeControl (t : TimerBlock) (value : UInt8) : TimerBlock × List Effect :=
  let unsupported :=
    if isRateGenerator value then [] else [.note (.timerModeUnsupported value)]
  match counter? (value >>> 6) with
  | none => (t, unsupported ++ [.note (.timerReadBackIgnored value)])
  | some i =>
    ({ t with counters := t.counters.set i (t.counters[i].program value) },
      unsupported ++ [.call (.cancel (timerOf i))])

/-- Takes a byte of a count. When it completes the counter and the timer has all its counts, the
timer is started. -/
def writeData (t : TimerBlock) (i : Fin 3) (value : UInt8) : TimerBlock × List Effect :=
  let merged := t.counters[i].merge value
  let t := { t with counters := t.counters.set i merged }
  if merged.loadState = Counter.complete then
    let timer := timerOf i
    let parked := { t with counters := t.counters.set i merged.park }
    if t.loaded timer then
      (parked.setPeriod timer (t.periodNow timer), [.call (.schedule timer (t.periodNow timer))])
    else (parked, [])
  else (t, [])

def write (t : TimerBlock) (address value : UInt8) : TimerBlock × List Effect :=
  let (t, effects) :=
    match counter? (address &&& 3) with
    | none => t.writeControl value
    | some i => t.writeData i value
  (t, .note (.timerWrite address value) :: effects)

/-! ## One counter -/

def counter (t : TimerBlock) (i : Fin 3) : Counter := t.counters[i]

def setCounter (t : TimerBlock) (i : Fin 3) (c : Counter) : TimerBlock :=
  { t with counters := t.counters.set i c }

theorem counter_setCounter (t : TimerBlock) (i j : Fin 3) (c : Counter) :
    (t.setCounter i c).counter j = if j = i then c else t.counter j := by
  simp only [counter, setCounter, Fin.getElem_fin, Vector.getElem_set, Fin.val_inj,
    eq_comm (a := i)]

end TimerBlock

end FeatureCard
