import FeatureCard.Pattern.Cursor

/-!
# Reading brackets

A set of characters between brackets. Brackets can be nested. Two ampersands, hyphens or tildes put
what stands before them together with what follows.
-/

namespace FeatureCard.Pattern

structure OpenBracket where
  negated : Bool
  span : Span
  began : Nat
  outside : List SetTree := []
  waiting : Option (SetOperation × SetTree) := none

def OpenBracket.close (b : OpenBracket) (items : List SetTree) : SetTree :=
  let side := SetTree.ofItems b.began items
  match b.waiting with
  | none => side
  | some (op, first) => .combine op first side ⟨first.span.start, side.span.stop⟩

/-- The bracket after an operation at the end of these items, with its second side to be read. -/
def OpenBracket.wait (b : OpenBracket) (op : SetOperation) (items : List SetTree) (place : Nat) :
    OpenBracket :=
  { b with waiting := some (op, b.close items), began := place }

/-- Hyphens that a bracket begins with stand for themselves. At most `rounds` are read. -/
def readHyphens : (rounds : Nat) → List SetTree → Cursor → List SetTree × Cursor
  | 0, items, c => (items, c)
  | rounds + 1, items, c =>
    if c.rest.head? = some '-' then
      readHyphens rounds (.letter '-' false c.one :: items) c.nextSkipped
    else (items, c)

/-- The beginning of a bracket: an open bracket and its first items. A closing bracket that comes
first stands for itself. -/
def readOpening (c : Cursor) : Except Fault ((OpenBracket × List SetTree) × Cursor) := do
  let start := c.place
  let c := c.nextSkipped
  if c.rest = [] then fail .openBracket (c.since start)
  let negated := c.rest.head? == some '^'
  let c := if negated then c.nextSkipped else c
  if c.rest = [] then fail .openBracket (c.since start)
  let began := c.place
  let (items, c) := readHyphens c.rest.length [] c
  if c.rest = [] then fail .openBracket ⟨start, start⟩
  if items.isEmpty && c.rest.head? == some ']' then
    let item := SetTree.letter ']' false c.one
    let c := c.nextSkipped
    if c.rest = [] then fail .openBracket (c.since start)
    return (({ negated, span := c.since start, began }, [item]), c)
  return (({ negated, span := c.since start, began }, items), c)

def readPosix? (c : Cursor) : Option (SetTree × Cursor) := do
  let inner ← c.after? "[:"
  let negated := inner.rest.head? == some '^'
  let inner := if negated then inner.next else inner
  let name := inner.run (· ≠ ':')
  let stop ← (inner.skip name.length).after? ":]"
  let p ← Posix.ofName? (String.ofList name)
  return (.posix p negated (stop.since c.place), stop)

def readSign (c : Cursor) : Except Fault ((Sign × Span) × Cursor) :=
  match c.rest with
  | '\\' :: _ => (readEscape c).map fun (s, stop) => ((s, stop.since c.place), stop)
  | x :: _ => .ok ((.letter x false, c.one), c.next)
  | [] => fail .openBracket c.here

def itemOf (s : Sign) (span : Span) : Except Fault SetTree :=
  match s with
  | .letter x byte => .ok (.letter x byte span)
  | .shorthand s negated => .ok (.shorthand s negated span)
  | .property name => .ok (.property name span)
  | _ => fail .badBracketEscape span

def endOf (s : Sign) (span : Span) : Except Fault (Char × Bool) :=
  match s with
  | .letter x byte => .ok (x, byte)
  | _ => fail .badRangeEnd span

/-- An item: a sign, or a range between two. A hyphen before a closing bracket or another hyphen
makes no range. -/
def readItem (b : OpenBracket) (c : Cursor) : Except Fault (SetTree × Cursor) := do
  let ((first, firstSpan), c) ← readSign c
  let c := c.skipBlanks
  match c.rest with
  | [] => fail .openBracket b.span
  | x :: _ =>
    if x ≠ '-' ∨ c.behind? = some ']' ∨ c.behind? = some '-' then
      return (← itemOf first firstSpan, c)
    let after := c.nextSkipped
    if after.rest = [] then fail .openBracket b.span
    else
      let ((last, lastSpan), c) ← readSign after
      let (x, xByte) ← endOf first firstSpan
      let (y, yByte) ← endOf last lastSpan
      if y < x then fail .backwardRange ⟨firstSpan.start, lastSpan.stop⟩
      return (.range (x, xByte) (y, yByte) firstSpan lastSpan, c)

def operation? (c : Cursor) : Option SetOperation :=
  if (c.after? "&&").isSome then some .inter
  else if (c.after? "--").isSome then some .diff
  else if (c.after? "~~").isSome then some .symmDiff
  else none

/-- Reads on in the bracket `b`, in the brackets `around` it, after `items`. Every round reads a
character at least, so `rounds` is never used up before the text. -/
def readItems (rounds : Nat) (around : List OpenBracket) (b : OpenBracket) (items : List SetTree)
    (c : Cursor) : Except Fault (Tree × Cursor) := do
  let c := c.skipBlanks
  match rounds, c.rest with
  | 0, _ | _, [] => fail .openBracket b.span
  | rounds + 1, x :: _ =>
    if x = '[' then
      match readPosix? c with
      | some (item, c) => readItems rounds around b (item :: items) c
      | none =>
        let ((inner, first), c) ← readOpening c
        readItems rounds (b :: around) { inner with outside := items } first c
    else if x = ']' then
      let set := b.close items
      let c := c.next
      let span := c.since b.span.start
      match around with
      | [] => return (.bracket b.negated set span, c)
      | outer :: around =>
        readItems rounds around outer (.bracket b.negated set span :: b.outside) c
    else
      match operation? c with
      | some op =>
        let c := c.skip 2
        readItems rounds around (b.wait op items c.place) [] c
      | none =>
        let (item, c) ← readItem b c
        readItems rounds around b (item :: items) c

def readBracket (c : Cursor) : Except Fault (Tree × Cursor) := do
  let ((b, items), c) ← readOpening c
  readItems c.rest.length [] b items c

end FeatureCard.Pattern
