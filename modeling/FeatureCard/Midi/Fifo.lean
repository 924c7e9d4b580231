/-!
# The MIDI queue

A queue of at most 64 bytes. What does not fit is dropped; what was accepted leaves in the order
in which it came.
-/

namespace FeatureCard.Midi

def capacity : Nat := 64

structure Fifo where
  /-- Oldest byte first. -/
  bytes : List UInt8 := []
  length_le : bytes.length ≤ capacity := by decide

namespace Fifo

def empty : Fifo := {}

instance : Inhabited Fifo := ⟨empty⟩

@[ext] theorem ext {q r : Fifo} (h : q.bytes = r.bytes) : q = r := by
  cases q; cases r; cases h; rfl

def size (q : Fifo) : Nat := q.bytes.length

def isEmpty (q : Fifo) : Bool := q.size == 0

def hasRoom (q : Fifo) : Bool := decide (q.size < capacity)

def accepts (q : Fifo) (chunk : List UInt8) : Nat :=
  min chunk.length (capacity - q.size)

/-- Appends as much of the front of `chunk` as fits. -/
def enqueue (q : Fifo) (chunk : List UInt8) : Fifo where
  bytes := q.bytes ++ chunk.take (q.accepts chunk)
  length_le := by
    have := q.length_le
    simp only [accepts, size, List.length_append, List.length_take]
    omega

def dequeue? (q : Fifo) : Option UInt8 × Fifo where
  fst := q.bytes.head?
  snd := {
    bytes := q.bytes.tail
    length_le := by
      have := q.length_le
      simp only [List.length_tail]
      omega }

def clear (_ : Fifo) : Fifo := empty

@[simp] theorem bytes_empty : empty.bytes = [] := rfl

@[simp] theorem bytes_enqueue (q : Fifo) (chunk : List UInt8) :
    (q.enqueue chunk).bytes = q.bytes ++ chunk.take (q.accepts chunk) := rfl

@[simp] theorem bytes_dequeue? (q : Fifo) : q.dequeue?.2.bytes = q.bytes.tail := rfl

@[simp] theorem bytes_clear (q : Fifo) : q.clear.bytes = [] := rfl

end Fifo

end FeatureCard.Midi
