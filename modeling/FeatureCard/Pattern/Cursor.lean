import FeatureCard.Pattern.Tree
import FeatureCard.Text.Blank

/-!
# Reading a pattern

A place in a written pattern, and how single signs are read there.
-/

namespace FeatureCard.Pattern

open Text (isBlank)

structure Cursor where
  rest : List Char
  place : Nat := 0
  /-- Blanks and remarks are left out. -/
  spaced : Bool := false

def fail {α : Type} (what : Trouble) (span : Span) : Except Fault α :=
  .error (.trouble what span none)

namespace Cursor

def skip (c : Cursor) (count : Nat) : Cursor :=
  { c with rest := c.rest.drop count, place := c.place + min count c.rest.length }

def next (c : Cursor) : Cursor := c.skip 1

def since (c : Cursor) (start : Nat) : Span := ⟨start, c.place⟩

def here (c : Cursor) : Span := c.since c.place

def one (c : Cursor) : Span := ⟨c.place, c.place + 1⟩

/-- What is left after blanks and remarks. A remark goes to the end of its line. -/
def afterBlanks : (inRemark : Bool) → List Char → List Char
  | _, [] => []
  | true, c :: cs => afterBlanks (c ≠ '\n') cs
  | false, c :: cs =>
    if isBlank c then afterBlanks false cs
    else if c = '#' then afterBlanks true cs
    else c :: cs

def skipBlanks (c : Cursor) : Cursor :=
  if c.spaced then c.skip (c.rest.length - (afterBlanks false c.rest).length) else c

def nextSkipped (c : Cursor) : Cursor := c.next.skipBlanks

def run (c : Cursor) (p : Char → Bool) : List Char := c.rest.takeWhile p

/-- The characters of which `p` holds at the beginning of a text, and the rest of the text. If
`spaced`, blanks and remarks between them and after them are left out. -/
def spacedRun (spaced : Bool) (p : Char → Bool) : (inRemark : Bool) → List Char →
    List Char × List Char
  | _, [] => ([], [])
  | true, c :: cs => spacedRun spaced p (c ≠ '\n') cs
  | false, c :: cs =>
    if spaced && isBlank c then spacedRun spaced p false cs
    else if spaced && c = '#' then spacedRun spaced p true cs
    else if p c then
      let (found, rest) := spacedRun spaced p false cs
      (c :: found, rest)
    else ([], c :: cs)

/-- The characters from here on of which `p` holds, and the place after them and the blanks between
and after them. -/
def gather (c : Cursor) (p : Char → Bool) : List Char × Cursor :=
  let (found, rest) := spacedRun c.spaced p false c.rest
  (found, c.skip (c.rest.length - rest.length))

/-- What is not blank and begins no remark. In a remark the first character that is not blank. -/
def seen? : (inRemark : Bool) → List Char → Option Char
  | _, [] => none
  | inRemark, c :: cs =>
    if isBlank c then seen? inRemark cs
    else if !inRemark && c = '#' then seen? true cs
    else some c

def behind? (c : Cursor) : Option Char :=
  let after := c.rest.tail
  if c.spaced then seen? false after <|> after.head? else after.head?

def after? (c : Cursor) (words : String) : Option Cursor :=
  if words.toList.isPrefixOf c.rest then some (c.skip words.length) else none

end Cursor

/-! ## Numbers -/

def hexValue? (c : Char) : Option Nat :=
  if c.isDigit then some (c.toNat - 0x30)
  else if 'a' ≤ c ∧ c ≤ 'f' then some (c.toNat - 0x57)
  else if 'A' ≤ c ∧ c ≤ 'F' then some (c.toNat - 0x37)
  else none

def natOfHex (ds : List Char) : Nat :=
  ds.foldl (fun n d => n * 16 + (hexValue? d).getD 0) 0

def charOf? (n : Nat) : Option Char := if n.isValidChar then some (Char.ofNat n) else none

/-- So many hexadecimal digits. `before` holds those before, the last first. -/
def readHexDigits : (count : Nat) → (before : List Char) → Cursor →
    Except Fault (List Char × Cursor)
  | 0, before, c => .ok (before.reverse, c)
  | count + 1, before, c =>
    match c.rest with
    | [] => fail .unfinishedEscape c.here
    | d :: _ =>
      if (hexValue? d).isNone then fail .badHexDigit c.one
      else readHexDigits count (d :: before) c.nextSkipped

def readFixedHex (count : Nat) (c : Cursor) : Except Fault (Char × Cursor) := do
  let (ds, stop) ← readHexDigits count [] c
  match charOf? (natOfHex ds) with
  | some x => return (x, stop)
  | none => fail .noSuchChar (stop.since c.place)

def readBracedHex (c : Cursor) : Except Fault (Char × Cursor) :=
  let (ds, stop) := c.nextSkipped.gather (hexValue? · |>.isSome)
  match stop.rest with
  | [] => fail .unfinishedEscape (stop.since c.place)
  | d :: _ =>
    if d ≠ '\x7d' then fail .badHexDigit stop.one
    else if ds = [] then fail .noHex (stop.nextSkipped.since c.place)
    else
      match charOf? (natOfHex ds) with
      | some x => .ok (x, stop.nextSkipped)
      | none => fail .noSuchChar (stop.since c.next.place)

def readHex (count : Nat) (c : Cursor) : Except Fault (Sign × Cursor) := do
  match c.rest with
  | [] => fail .unfinishedEscape c.here
  | '\x7b' :: _ =>
    let (x, c) ← readBracedHex c
    return (.letter x false, c)
  | _ =>
    let (x, c) ← readFixedHex count c
    return (.letter x (count = 2), c)

/-! ## Signs after a backslash -/

def aloneName? (name : List Char) : Option (List Char) :=
  if name.any fun x => x = ':' || x = '=' then none else some name

def readProperty (c : Cursor) : Except Fault (Sign × Cursor) :=
  match c.rest with
  | [] => fail .unfinishedEscape c.here
  | '\x7b' :: _ =>
    let (name, stop) := c.nextSkipped.gather (· ≠ '\x7d')
    if stop.rest = [] then fail .unfinishedEscape stop.here
    else .ok (.property (aloneName? name), stop.next)
  | '\\' :: _ => fail .badProperty c.one
  | _ => .ok (.property none, c.nextSkipped)

def namedEdges : List (String × WordEdge) :=
  [("start", .start), ("end", .stop), ("start-half", .startHalf), ("end-half", .stopHalf)]

/-- The edge of a word, after its letter. A name between braces tells which, but braces may also
hold a count. -/
def readWordEdge (start : Nat) (c : Cursor) : Except Fault (Sign × Cursor) :=
  match c.rest with
  | '\x7b' :: _ =>
    let inner := c.nextSkipped
    let (name, stop) := inner.gather fun x => x.isAlpha || x = '-'
    if inner.rest = [] then fail .openWordEdgeOrCount (inner.since start)
    else if name = [] then .ok (.word .edge, c)
    else if stop.rest.head? ≠ some '\x7d' then fail .openWordEdge (stop.since c.place)
    else
      match namedEdges.lookup (String.ofList name) with
      | some e => .ok (.word e, stop.next)
      | none => fail .unknownWordEdge (stop.since inner.place)
  | _ => .ok (.word .edge, c)

/-- The signs that stand for themselves after a backslash: all of ASCII but letters, digits and
angle brackets. -/
def isPlainEscape (x : Char) : Bool :=
  x.toNat < 0x80 && !x.isAlphanum && x ≠ '<' && x ≠ '>'

def escapes : List (Char × Sign) :=
  [('a', .letter '\x07' false), ('f', .letter '\x0c' false), ('t', .letter '\t' false),
    ('n', .letter '\n' false), ('r', .letter '\x0d' false), ('v', .letter '\x0b' false),
    ('A', .textStart), ('z', .textEnd), ('B', .word .noEdge), ('<', .word .start),
    ('>', .word .stop), ('d', .shorthand .digit false), ('D', .shorthand .digit true),
    ('s', .shorthand .space false), ('S', .shorthand .space true), ('w', .shorthand .word false),
    ('W', .shorthand .word true)]

def readEscape (c : Cursor) : Except Fault (Sign × Cursor) :=
  let start := c.place
  let c := c.next
  match c.rest with
  | [] => fail .unfinishedEscape (c.since start)
  | x :: _ =>
    if x.isDigit then fail .backReference (c.next.since start)
    else if x = 'x' then readHex 2 c.nextSkipped
    else if x = 'u' then readHex 4 c.nextSkipped
    else if x = 'U' then readHex 8 c.nextSkipped
    else if x = 'p' ∨ x = 'P' then readProperty c.nextSkipped
    else if x = 'b' then readWordEdge start c.next
    else if isPlainEscape x then .ok (.letter x false, c.next)
    else
      match escapes.lookup x with
      | some s => .ok (s, c.next)
      | none => fail .unknownEscape (c.next.since start)

end FeatureCard.Pattern
