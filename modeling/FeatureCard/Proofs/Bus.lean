import FeatureCard.Bus

/-!
# What a program does on its bus

A program on a bus makes finitely many accesses. `trace` lists them with their answers and with the
states of the bus in between. What every access keeps holds all along the trace and at its end.
-/

namespace FeatureCard

inductive BusAccess where
  | read (address : UInt16) (value : UInt8)
  | write (address : UInt16) (value : UInt8)
  | input (port value : UInt8)
  | output (port value : UInt8)
  deriving DecidableEq, Repr

namespace BusProgram

variable {α β σ : Type}

/-- The accesses of a program in order, each with the state of the bus after it. -/
def trace [Bus σ] (p : BusProgram α) (s : σ) : List (BusAccess × σ) :=
  match p with
  | done _ => []
  | read address next =>
    let v := Bus.read s address
    (.read address v, s) :: (next v).trace s
  | write address value next =>
    let s := Bus.write s address value
    (.write address value, s) :: next.trace s
  | input port next =>
    let (v, s) := Bus.input s port
    (.input port v, s) :: (next v).trace s
  | output port value next =>
    let s := Bus.output s port value
    (.output port value, s) :: next.trace s

theorem run_bind [Bus σ] (p : BusProgram α) (f : α → BusProgram β) (s : σ) :
    (p >>= f).run s = (f (p.run s).1).run (p.run s).2 := by
  change (p.bind f).run s = _
  induction p generalizing s with
  | done a => rfl
  | read address next ih => simp only [bind, run, ih]
  | write address value next ih => simp only [bind, run, ih]
  | input port next ih => simp only [bind, run, ih]
  | output port value next ih => simp only [bind, run, ih]

/-! ## Invariants of a bus -/

/-- No access to the bus breaks `P`. -/
structure Kept [Bus σ] (P : σ → Prop) : Prop where
  write : ∀ s address value, P s → P (Bus.write s address value)
  input : ∀ s port, P s → P (Bus.input s port).2
  output : ∀ s port value, P s → P (Bus.output s port value)

theorem Kept.trace [Bus σ] {P : σ → Prop} (k : Kept P) (p : BusProgram α) (s : σ) (h : P s) :
    ∀ x ∈ p.trace s, P x.2 := by
  induction p generalizing s with
  | done a => intro x hx; simp [BusProgram.trace] at hx
  | read address next ih =>
    intro x hx
    rcases List.mem_cons.1 hx with rfl | hx
    · exact h
    · exact ih _ s h x hx
  | write address value next ih =>
    intro x hx
    have hs := k.write s address value h
    rcases List.mem_cons.1 hx with rfl | hx
    · exact hs
    · exact ih _ hs x hx
  | input port next ih =>
    intro x hx
    have hs := k.input s port h
    rcases List.mem_cons.1 hx with rfl | hx
    · exact hs
    · exact ih _ _ hs x hx
  | output port value next ih =>
    intro x hx
    have hs := k.output s port value h
    rcases List.mem_cons.1 hx with rfl | hx
    · exact hs
    · exact ih _ hs x hx

theorem Kept.run [Bus σ] {P : σ → Prop} (k : Kept P) (p : BusProgram α) (s : σ) (h : P s) :
    P (p.run s).2 := by
  induction p generalizing s with
  | done a => exact h
  | read address next ih => exact ih _ s h
  | write address value next ih => exact ih _ (k.write s address value h)
  | input port next ih => exact ih _ _ (k.input s port h)
  | output port value next ih => exact ih _ (k.output s port value h)

end BusProgram

end FeatureCard
