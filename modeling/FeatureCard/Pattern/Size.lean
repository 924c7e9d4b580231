import FeatureCard.Pattern.Normal
import FeatureCard.Pattern.Report
import FeatureCard.Pattern.Utf8

/-!
# How big a pattern is

A pattern is followed byte by byte by machines of states, one that goes through a text forwards and
one that goes backwards. Repetitions are written out in them, so a short pattern can ask for a big
machine. Patterns whose machines take more than `sizeLimit` bytes are refused.
-/

namespace FeatureCard.Pattern

inductive Direction where
  | forwards
  | backwards
  deriving DecidableEq, Repr

/-! ## States -/

def stateBytes : Nat := 32

/-- What a byte range in a state takes, if the state has more than one. -/
def edgeBytes : Nat := 8

/-- What a way on takes in a state that only forks. -/
def wayBytes : Nat := 4

/-! ## Sets -/

def firstRanges (ss : List ByteRanges) : ByteRanges := (ss.filterMap List.head?).eraseReps

/-- What follows a byte range in the sequences that begin with it. -/
def following (r : Nat × Nat) (ss : List ByteRanges) : List ByteRanges :=
  ss.filterMap fun s => if s.head? = some r then some s.tail else none

/-- All that can still follow somewhere in sequences of at most so many bytes. -/
def stages : (bytes : Nat) → List ByteRanges → List (List ByteRanges)
  | 0, _ => []
  | bytes + 1, ss =>
    if firstRanges ss = [] then []
    else ss :: (firstRanges ss).flatMap fun r => stages bytes (following r ss)

/-- The states for a set beyond ASCII, forwards: one for each stage, and one at the end. -/
def forwardSetBytes (ss : List ByteRanges) : Nat :=
  (stages 4 ss).eraseDups.foldl
    (fun bytes stage => bytes + stateBytes + edgeBytes * (firstRanges stage).length) stateBytes

/-- The states for a set beyond ASCII, backwards: one for each beginning of a sequence, one that
forks to all sequences, and one at the end. -/
def backwardSetBytes (ss : List ByteRanges) : Nat :=
  let beginnings := ss.flatMap fun s => (List.range s.length).map fun n => s.take (n + 1)
  stateBytes * (2 + beginnings.eraseDups.length) + wayBytes * ss.length

def CharSet.bytes (d : Direction) (s : CharSet) : Nat :=
  if s.ranges.all (·.2 < 0x80) then 2 * stateBytes + edgeBytes * s.ranges.length
  else
    match d with
    | .forwards => forwardSetBytes s.utf8
    | .backwards => backwardSetBytes s.utf8

/-! ## Words

A choice between words is followed letter by letter through all of them at once. -/

def wordOf (d : Direction) (cs : List Char) : List UInt8 :=
  let bytes := cs.flatMap String.utf8EncodeChar
  match d with
  | .forwards => bytes
  | .backwards => bytes.reverse

/-- The words that go on, in turns: a word that ends here closes a turn. Words that end here before
any has gone on close one turn only. -/
def turns (words : List (List UInt8)) : List (List (List UInt8)) :=
  let (closed, turn) := words.foldl
    (fun (closed, turn) word =>
      if word ≠ [] then (closed, turn ++ [word])
      else if turn = [] ∧ closed ≠ [] ∧ closed.all (· = []) then (closed, turn)
      else (closed ++ [turn], []))
    (([], []) : List (List (List UInt8)) × List (List UInt8))
  closed ++ [turn]

def wordTreeBytes : (bytes : Nat) → List (List UInt8) → Nat
  | 0, _ => 0
  | bytes + 1, words =>
    let all := turns words
    let used := all.filter (· ≠ [])
    if used = [] then 0
    else
      stateBytes + wayBytes * (used.length + (all.length - 1)) + (used.map fun turn =>
        let firsts := (turn.filterMap List.head?).eraseDups
        stateBytes + (if firsts.length = 1 then 0 else edgeBytes * firsts.length) +
          (firsts.map fun b =>
            wordTreeBytes bytes ((turn.filter (·.head? = some b)).map List.tail)).sum).sum

def wordsBytes (words : List (List UInt8)) : Nat :=
  stateBytes + wordTreeBytes ((words.map List.length).foldl max 0) words

def characters? : Pattern → Option (List Char)
  | text cs => some cs
  | _ => none

/-! ## Patterns -/

def wayTo (branch : Bool) : Nat := if branch then wayBytes else 0

def timesBytes (once : Nat) (moves : Bool) (least : Nat) (most : Option Nat) : Nat :=
  let fork := stateBytes + 2 * wayBytes
  match most with
  | none => if least = 0 ∧ !moves then 2 * fork + stateBytes + once else fork + max least 1 * once
  | some most =>
    if least = most then least * once
    else if least = 0 ∧ most = 1 then fork + stateBytes + once
    else
      (if least = 0 then stateBytes else least * once) + stateBytes +
        (most - least) * (fork + once)

/-- The states for a pattern, which may be a branch of a choice or the rest of its branches. -/
def bytes (d : Direction) : (branch : Bool) → Pattern → Nat
  | b, empty | b, look _ => wayTo b + stateBytes
  | b, text cs => wayTo b + stateBytes * (wordOf d cs).length
  | b, one s => wayTo b + s.bytes d
  | b, group _ p => wayTo b + (if d = .forwards then 2 * stateBytes else 0) + p.bytes d false
  | b, seq p q => wayTo b + p.bytes d false + q.bytes d false
  | b, alt p q =>
    let all := p.bytes d true + q.bytes d true
    if b then all
    else
      match (alt p q).branches.mapM characters? with
      | some words => wordsBytes (words.map (wordOf d))
      | none => 2 * stateBytes + all
  | b, times least most _ p =>
    wayTo b + timesBytes (p.bytes d false) (p.leastLength?.any (0 < ·)) least most

/-- The pattern fits only where this holds of the place that it begins at. -/
def beginsWith (l : Look) : Pattern → Bool
  | empty | text _ | one _ => false
  | look k => k == l
  | group _ p => p.beginsWith l
  | seq p q => p.beginsWith l || (p.mostLength? == some 0 && q.beginsWith l)
  | alt p q => p.beginsWith l && q.beginsWith l
  | times least _ _ p => 0 < least && p.beginsWith l

def endsWith (l : Look) : Pattern → Bool
  | empty | text _ | one _ => false
  | look k => k == l
  | group _ p => p.endsWith l
  | seq p q => q.endsWith l || (q.mostLength? == some 0 && p.endsWith l)
  | alt p q => p.endsWith l && q.endsWith l
  | times least _ _ p => 0 < least && p.endsWith l

def anyBytes : Nat := stateBytes + 2 * wayBytes + (2 * stateBytes + edgeBytes)

/-- A machine for a pattern. It begins with a loop over what stands before the part to be found,
unless that part has to begin where the machine begins. -/
def machineBytes (p : Pattern) : Direction → Nat
  | .forwards =>
    (if p.beginsWith .textStart then stateBytes else anyBytes) + 2 * stateBytes +
      p.bytes .forwards false + stateBytes
  | .backwards =>
    (if p.endsWith .textEnd then stateBytes else anyBytes) + p.bytes .backwards false + stateBytes

/-! ## What is refused -/

def asksForWords : Pattern → Bool
  | look (.word _ anyScript) => anyScript
  | empty | text _ | one _ | look _ => false
  | group _ p | times _ _ _ p => p.asksForWords
  | seq p q | alt p q => p.asksForWords || q.asksForWords

/-- The pattern, if it can be followed. The machine that goes forwards is built first. -/
def checked (p : Pattern) : Except Fault Pattern :=
  if sizeLimit < p.machineBytes .forwards then .error .tooBig
  else if p.asksForWords then .error .noWordEdges
  else if sizeLimit < p.machineBytes .backwards then .error .tooBig
  else .ok p

end FeatureCard.Pattern
