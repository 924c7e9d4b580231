/-!
# Arithmetic in words of a fixed width

The card counts in machine words. A sum, product or difference that does not fit its word, and a
division by zero, stop the operation. `Fault` says which of the four it was.
-/

namespace FeatureCard

inductive Fault where
  | sum
  | difference
  | product
  | quotient
  deriving DecidableEq, Repr

namespace Fault

def message : Fault → String
  | sum => "attempt to add with overflow"
  | difference => "attempt to subtract with overflow"
  | product => "attempt to multiply with overflow"
  | quotient => "attempt to divide by zero"

end Fault

abbrev Checked (α : Type) := Except Fault α

def word32 : Nat := 0x100000000

def word64 : Nat := 0x10000000000000000

def signedWord64 : Int := 0x8000000000000000

def addBelow (limit a b : Nat) : Checked Nat :=
  if a + b < limit then .ok (a + b) else .error .sum

def mulBelow (limit a b : Nat) : Checked Nat :=
  if a * b < limit then .ok (a * b) else .error .product

def subtract (a b : Nat) : Checked Nat :=
  if b ≤ a then .ok (a - b) else .error .difference

def mulSigned64 (a b : Int) : Checked Int :=
  if -signedWord64 ≤ a * b ∧ a * b < signedWord64 then .ok (a * b) else .error .product

theorem addBelow_of_lt {limit a b : Nat} (h : a + b < limit) : addBelow limit a b = .ok (a + b) :=
  if_pos h

theorem mulBelow_of_lt {limit a b : Nat} (h : a * b < limit) : mulBelow limit a b = .ok (a * b) :=
  if_pos h

theorem subtract_of_le {a b : Nat} (h : b ≤ a) : subtract a b = .ok (a - b) :=
  if_pos h

theorem mulSigned64_of_mem {a b : Int} (lo : -signedWord64 ≤ a * b)
    (hi : a * b < signedWord64) :
    mulSigned64 a b = .ok (a * b) :=
  if_pos ⟨lo, hi⟩

end FeatureCard
