import FeatureCard.Pattern.Basic

/-!
# Putting patterns together

Patterns are built up so that what means little is left out. Sequences and choices are flat: their
first part is never one of their own kind. Texts that follow each other are one text, a choice
between single characters or between sets is one set, and what all branches of a choice begin with
stands before it.
-/

namespace FeatureCard.Pattern

/-! ## Lengths -/

/-- The length of the shortest text that the pattern describes. There is none if a part of it can
be no character at all. -/
def leastLength? : Pattern → Option Nat
  | empty | look _ => some 0
  | text cs => some cs.length
  | one s => if s.isNone then none else some 1
  | group _ p => p.leastLength?
  | seq p q => return (← p.leastLength?) + (← q.leastLength?)
  | alt p q => return min (← p.leastLength?) (← q.leastLength?)
  | times least _ _ p => return least * (← p.leastLength?)

def mostLength? : Pattern → Option Nat
  | empty | look _ => some 0
  | text cs => some cs.length
  | one s => if s.isNone then none else some 1
  | group _ p => p.mostLength?
  | seq p q => return (← p.mostLength?) + (← q.mostLength?)
  | alt p q => return max (← p.mostLength?) (← q.mostLength?)
  | times _ most _ p => return (← most) * (← p.mostLength?)

/-! ## Sets and repetitions -/

def ofSet (s : CharSet) : Pattern :=
  match s.ranges with
  | [(first, last)] => if first = last then text [Char.ofNat first] else one s
  | _ => one s

def nothing : Pattern := one .none

/-- The pattern so many times. What takes no character needs no second round. -/
def repeated (least : Nat) (most : Option Nat) (lazy : Bool) (p : Pattern) : Pattern :=
  let still := p.mostLength? == some 0
  let least := if still then min least 1 else least
  let most := if still then some (min (most.getD 1) 1) else most
  if most = some 0 then empty
  else if least = 1 ∧ most = some 1 then p
  else times least most lazy p

/-! ## Sequences -/

def parts : Pattern → List Pattern
  | empty => []
  | seq p q => p :: q.parts
  | p => [p]

def joinTexts : List Pattern → List Pattern
  | [] => []
  | text cs :: rest =>
    match joinTexts rest with
    | text ds :: rest => text (cs ++ ds) :: rest
    | rest => text cs :: rest
  | p :: rest => p :: joinTexts rest

def ofParts : List Pattern → Pattern
  | [] => empty
  | [p] => p
  | p :: rest => seq p (ofParts rest)

def sequence (ps : List Pattern) : Pattern := ofParts (joinTexts (ps.flatMap parts))

/-! ## Choices -/

def branches : Pattern → List Pattern
  | alt p q => p :: q.branches
  | p => [p]

def ofBranches : List Pattern → Pattern
  | [] => nothing
  | [p] => p
  | p :: rest => alt p (ofBranches rest)

def character? : Pattern → Option Char
  | text [c] => some c
  | _ => none

def set? : Pattern → Option CharSet
  | one s => some s
  | _ => none

def setOfBranches? (ps : List Pattern) : Option CharSet :=
  match ps.mapM character? with
  | some cs => some (.ofChars cs)
  | none => (ps.mapM set?).map fun sets => sets.foldl .union .none

def sequenceParts : Pattern → List Pattern
  | p@(seq _ _) => p.parts
  | _ => []

/-- What two lists begin with. -/
def sharedStart : List Pattern → List Pattern → List Pattern
  | p :: ps, q :: qs => if p = q then p :: sharedStart ps qs else []
  | _, _ => []

def nodes : Pattern → Nat
  | empty | text _ | one _ | look _ => 1
  | group _ p | times _ _ _ p => 1 + p.nodes
  | seq p q | alt p q => 1 + p.nodes + q.nodes

/-- The choice between patterns, with what all branches begin with put before it. This takes parts
away from the branches, so `rounds` is never used up if it starts at the number of nodes. -/
def choose : (rounds : Nat) → List Pattern → Pattern
  | 0, ps => ofBranches ps
  | rounds + 1, ps =>
    match ps.flatMap branches with
    | [] => nothing
    | [p] => p
    | p :: rest =>
      match setOfBranches? (p :: rest) with
      | some s => ofSet s
      | none =>
        let first := sequenceParts p
        let start := rest.foldl (fun start q => sharedStart start (sequenceParts q)) first
        if start = [] then ofBranches (p :: rest)
        else
          let ends := (p :: rest).map fun q => sequence ((sequenceParts q).drop start.length)
          sequence (start ++ [choose rounds ends])

def choice (ps : List Pattern) : Pattern := choose ((ps.map nodes).foldl (· + ·) 0) ps

end FeatureCard.Pattern
