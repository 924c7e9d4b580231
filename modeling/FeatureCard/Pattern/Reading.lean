import FeatureCard.Pattern.Bracket
import FeatureCard.Text.Digits
import FeatureCard.Text.Letter
import FeatureCard.Text.Numeral

/-!
# Reading patterns

Groups, choices, repetitions and flags. Open groups are kept in a list, the innermost first.
-/

namespace FeatureCard.Pattern

open Text (isBlank letters natOfDigits numerals)

/-! ## Flags -/

def flagOf? : Char → Option Flag
  | 'i' => some .anyCase
  | 'm' => some .lines
  | 's' => some .anyChar
  | 'U' => some .lazy
  | 'u' => some .unicode
  | 'R' => some .anyLine
  | 'x' => some .spaced
  | _ => none

def failAgainst {α : Type} (what : Trouble) (span other : Span) : Except Fault α :=
  .error (.trouble what span (some other))

/-- Flags up to a colon or a closing parenthesis. `given` holds those before with their places, and
`minus` the place of the sign from which on flags are taken back. -/
def readFlags (given : List (Flag × Bool × Span)) (minus : Option Span) :
    (cs : List Char) → (place : Nat) → Except Fault Flags
  | [], place => fail .unfinishedFlags ⟨place, place⟩
  | x :: cs, place =>
    let span : Span := ⟨place, place + 1⟩
    if x = ':' ∨ x = ')' then
      match minus with
      | some m =>
        if m.stop = place then fail .danglingNegation m
        else .ok (given.reverse.map fun (f, on, _) => (f, on))
      | none => .ok (given.reverse.map fun (f, on, _) => (f, on))
    else if x = '-' then
      match minus with
      | some m => failAgainst .repeatedNegation span m
      | none => readFlags given (some span) cs (place + 1)
    else
      match flagOf? x with
      | none => fail .unknownFlag span
      | some f =>
        match given.lookup f with
        | some (_, other) => failAgainst .repeatedFlag span other
        | none => readFlags ((f, minus.isNone, span) :: given) minus cs (place + 1)

/-! ## Names -/

/-- The character can stand in the name of a group, `first` or later. -/
def isNameChar (first : Bool) (x : Char) : Bool :=
  x = '_' || letters.has x || (!first && (numerals.has x || x = '.' || x = '[' || x = ']'))

def readName (c : Cursor) : Except Fault ((String × Span) × Cursor) :=
  let name := match c.rest with
    | [] => []
    | x :: cs => if isNameChar true x then x :: cs.takeWhile (isNameChar false) else []
  let stop := c.skip name.length
  match stop.rest with
  | [] => fail .unfinishedName stop.here
  | x :: _ =>
    if x ≠ '>' then fail .badName stop.one
    else if name = [] then fail .noName c.here
    else .ok ((String.ofList name, stop.since c.place), stop.next)

/-! ## Counts -/

def countLimit : Nat := 0x100000000

def readCount (c : Cursor) : Except Fault Nat × Cursor :=
  let c := c.skip (c.run isBlank).length
  let (ds, stop) := c.gather Char.isDigit
  let n : Except Fault Nat :=
    if ds = [] then fail .noCount stop.here
    else if natOfDigits ds < countLimit then .ok (natOfDigits ds)
    else fail .badNumber (stop.since c.place)
  (n, stop.skip (stop.run isBlank).length)

def readCounts (start : Nat) (c : Cursor) : Except Fault ((Nat × Option Nat) × Cursor) := do
  if c.rest = [] then fail .openCount (c.since start)
  let (least, c) := readCount c
  match c.rest with
  | [] => fail .openCount (c.since start)
  | x :: _ =>
    let (counts, c) ← (if x ≠ ',' then do
        let n ← least
        return ((n, some n), c)
      else
        let c := c.nextSkipped
        match c.rest with
        | [] => fail .openCount (c.since start)
        | y :: _ =>
          if y = '\x7d' then do
            return ((← least, none), c)
          else do
            let least ← least
            let (most, c) := readCount c
            return ((least, some (← most)), c) : Except Fault ((Nat × Option Nat) × Cursor))
    if c.rest.head? ≠ some '\x7d' then fail .openCount (c.since start)
    return (counts, c.nextSkipped)

/-! ## Groups -/

structure Level where
  start : Nat
  /-- The choices before the last bar, the last first. -/
  choices : List Tree := []
  began : Nat := start
  items : List Tree := []

namespace Level

def current (l : Level) (stop : Nat) : Tree := .sequence ⟨l.began, stop⟩ l.items

def tree (l : Level) (stop : Nat) : Tree :=
  .choice ⟨l.start, stop⟩ (l.current stop :: l.choices)

end Level

structure OpenGroup where
  outside : Level
  index : Option Nat
  flags : Flags
  span : Span
  spaced : Bool

structure Reader where
  cursor : Cursor
  level : Level := { start := 0 }
  /-- The innermost first. -/
  groups : List OpenGroup := []
  numbered : Nat := 0
  names : List (String × Span) := []

namespace Reader

def add (r : Reader) (t : Tree) (c : Cursor) : Reader :=
  { r with cursor := c, level := { r.level with items := t :: r.level.items } }

def openGroup (r : Reader) (index : Option Nat) (flags : Flags) (c : Cursor) : Reader :=
  { r with
    cursor := { c with spaced := (flags.lookup .spaced).getD c.spaced }
    level := { start := c.place }
    groups :=
      { outside := r.level, index, flags, span := r.cursor.one, spaced := c.spaced } :: r.groups }

def openNumbered (r : Reader) (c : Cursor) : Reader :=
  { r.openGroup (some r.numbered) [] c with numbered := r.numbered + 1 }

def readGroup (r : Reader) : Except Fault Reader := do
  let c := r.cursor.nextSkipped
  if let some stop := (["?=", "?!", "?<=", "?<!"].findSome? c.after?) then
    fail .lookAround (stop.since r.cursor.place)
  if let some inner := (["?P<", "?<"].findSome? c.after?) then
    let ((name, span), c) ← readName inner
    match r.names.lookup name with
    | some other => failAgainst .repeatedName span other
    | none => return { r.openNumbered c with names := (name, span) :: r.names }
  match c.after? "?" with
  | none => return r.openNumbered c
  | some inner =>
    if inner.rest = [] then fail .openGroup r.cursor.one
    let flags ← readFlags [] none inner.rest inner.place
    let stop := inner.skip (inner.run fun x => x ≠ ':' && x ≠ ')').length
    if stop.rest.head? = some ')' then
      if flags = [] then fail .nothingToRepeat c.here
      let c := { stop.next with spaced := (flags.lookup .spaced).getD c.spaced }
      return r.add (.flags flags (c.since r.cursor.place)) c
    else return r.openGroup none flags stop.next

def closeGroup (r : Reader) : Except Fault Reader :=
  match r.groups with
  | [] => fail .unopenedGroup r.cursor.one
  | g :: groups =>
    let c := { r.cursor.next with spaced := g.spaced }
    let body := r.level.tree r.cursor.place
    let group := Tree.group g.index g.flags body (c.since g.span.start)
    .ok ({ r with groups, level := g.outside }.add group c)

def addBar (r : Reader) : Reader :=
  let c := r.cursor.next
  { r with
    cursor := c
    level := { r.level with
      choices := r.level.current r.cursor.place :: r.level.choices
      began := c.place
      items := [] } }

/-- A repetition of the last item, with its sign from here up to `c`. A question mark may follow. -/
def repeatLast (r : Reader) (least : Nat) (most : Option Nat) (c : Cursor) : Except Fault Reader :=
  let lazy := c.rest.head? == some '?'
  let c := if lazy then c.next else c
  match r.level.items with
  | [] | .flags _ _ :: _ => fail .nothingToRepeat r.cursor.here
  | t :: items =>
    if most.any (· < least) then fail .backwardCount (c.since r.cursor.place)
    else
      let times := Tree.times least most lazy t (c.since t.span.start)
      .ok ({ r with level := { r.level with items } }.add times c)

def readRepetition (r : Reader) : Except Fault Reader := do
  match r.level.items with
  | [] | .flags _ _ :: _ => fail .nothingToRepeat r.cursor.here
  | _ =>
    let ((least, most), c) ← readCounts r.cursor.place r.cursor.nextSkipped
    r.repeatLast least most c

def step (r : Reader) (x : Char) : Except Fault Reader :=
  let c := r.cursor
  match x with
  | '(' => r.readGroup
  | ')' => r.closeGroup
  | '|' => .ok r.addBar
  | '[' => (readBracket c).map fun (t, c) => r.add t c
  | '?' => r.repeatLast 0 (some 1) c.next
  | '*' => r.repeatLast 0 none c.next
  | '+' => r.repeatLast 1 none c.next
  | '\x7b' => r.readRepetition
  | '\\' => (readEscape c).map fun (s, stop) => r.add (.sign s (stop.since c.place)) stop
  | '.' => .ok (r.add (.sign .point c.one) c.next)
  | '^' => .ok (r.add (.sign .lineStart c.one) c.next)
  | '$' => .ok (r.add (.sign .lineEnd c.one) c.next)
  | x => .ok (r.add (.sign (.letter x false) c.one) c.next)

def finish (r : Reader) : Except Fault Tree :=
  match r.groups with
  | [] => .ok (r.level.tree r.cursor.place)
  | g :: _ => fail .openGroup g.span

/-- Reads to the end. Every round reads a character at least, so `rounds` is never used up before
the text. -/
def readAll : (rounds : Nat) → Reader → Except Fault Tree
  | 0, r => r.finish
  | rounds + 1, r =>
    let c := r.cursor.skipBlanks
    let r := { r with cursor := c }
    match c.rest with
    | [] => r.finish
    | x :: _ => do readAll rounds (← r.step x)

end Reader

/-- The tree of a written pattern. Its parts do not lie too deep. -/
def Tree.ofText? (text : String) : Except Fault Tree := do
  let tree ← Reader.readAll (text.length + 1) { cursor := { rest := text.toList } }
  match tree.tooDeep? depthLimit with
  | some span => fail .tooDeep span
  | none => return tree

end FeatureCard.Pattern
