import FeatureCard.Pattern.Posix

/-!
# Patterns

A pattern describes texts. It occurs in a text if it describes a part of it. To find out, the
places in the text that can be reached are followed through the pattern, all at once.
-/

namespace FeatureCard

namespace Pattern

/-! ## Places -/

inductive WordEdge where
  | edge
  | noEdge
  | start
  | stop
  /-- No word comes up to here. -/
  | startHalf
  /-- No word goes on from here. -/
  | stopHalf
  deriving DecidableEq, Repr

def WordEdge.holds (before after : Bool) : WordEdge → Bool
  | edge => before != after
  | noEdge => before == after
  | start => !before && after
  | stop => before && !after
  | startHalf => !before
  | stopHalf => !after

inductive Look where
  | textStart
  | textEnd
  | lineStart
  | lineEnd
  | anyLineStart
  | anyLineEnd
  | word (e : WordEdge) (anyScript : Bool)
  deriving DecidableEq, Repr

def isWord (c : Option Char) : Bool := c.any Posix.word.ranges.has

/-- The condition holds at a place between these two characters. Letters beyond ASCII are not known
to belong to words; a pattern that asks about them is refused when it is read. -/
def Look.holds (before after : Option Char) : Look → Bool
  | textStart => before.isNone
  | textEnd => after.isNone
  | lineStart => before.isNone || before == some '\n'
  | lineEnd => after.isNone || after == some '\n'
  | anyLineStart =>
    before.isNone || before == some '\n' || (before == some '\x0d' && after != some '\n')
  | anyLineEnd =>
    after.isNone || after == some '\x0d' || (after == some '\n' && before != some '\x0d')
  | word e _ => e.holds (isWord before) (isWord after)

end Pattern

inductive Pattern where
  | empty
  | text (cs : List Char)
  | one (s : Pattern.CharSet)
  | look (l : Pattern.Look)
  | group (index : Nat) (p : Pattern)
  | seq (p q : Pattern)
  | alt (p q : Pattern)
  /-- So many times at least, and so many at most if there is a limit; as few as can be if `lazy`. -/
  | times (least : Nat) (most : Option Nat) (lazy : Bool) (p : Pattern)
  deriving DecidableEq, Repr

namespace Pattern

/-! ## Places reached

Places are kept in lists, in ascending order and each once. -/

def bothPlaces (xs ys : List Nat) : List Nat := (xs.merge ys).eraseReps

/-- Goes on `count` times, or until going on changes nothing. -/
def goOn (f : List Nat → List Nat) : (count : Nat) → List Nat → List Nat
  | 0, places => places
  | count + 1, places =>
    let next := f places
    if next = places then places else goOn f count next

/-- All places found by going on from `fresh` at most `count` times, those known before included. -/
def gather (f : List Nat → List Nat) : (count : Nat) → (known fresh : List Nat) → List Nat
  | 0, known, _ => known
  | count + 1, known, fresh =>
    let found := (f fresh).filter (· ∉ known)
    if found = [] then known else gather f count (bothPlaces known found) found

def before (text : Array Char) (place : Nat) : Option Char :=
  if place = 0 then none else text[place - 1]?

def step (text : Array Char) (p : Char → Bool) (places : List Nat) : List Nat :=
  (places.filter fun i => text[i]?.any p).map (· + 1)

/-- The places that parts described by the pattern lead to, from any of `places`. -/
def reach (text : Array Char) : Pattern → List Nat → List Nat
  | empty, places => places
  | .text cs, places => cs.foldl (fun places c => step text (· == c) places) places
  | one s, places => step text (s.has ·) places
  | look l, places => places.filter fun i => l.holds (before text i) text[i]?
  | group _ p, places => reach text p places
  | seq p q, places => reach text q (reach text p places)
  | alt p q, places => bothPlaces (reach text p places) (reach text q places)
  | times least most _ p, places =>
    let start := goOn (reach text p) least places
    -- Every further round finds a new place, and the text has only so many.
    let rounds := (most.map (· - least)).getD (text.size + 1)
    gather (reach text p) (min rounds (text.size + 1)) start start

def occursIn (p : Pattern) (text : String) : Bool :=
  let text := text.toList.toArray
  p.reach text (List.range (text.size + 1)) != []

end Pattern

end FeatureCard
