import FeatureCard.Pattern.Fault

/-!
# Reports on written patterns

How a fault is shown: the pattern with marks below the spans that are to blame, and what is wrong
with them. A pattern of several lines is shown between two rules, with the number of each line. A
span that goes over lines has no marks; its ends are given instead.
-/

namespace FeatureCard.Pattern

def sizeLimit : Nat := 10485760

/-! ## Lines -/

/-- A place in a text by its line and column, both counted from zero. -/
structure Position where
  line : Nat
  column : Nat
  deriving DecidableEq, Repr

def Position.ofPlace (text : List Char) (place : Nat) : Position :=
  let before := text.take place
  { line := before.count '\n', column := (before.reverse.takeWhile (· ≠ '\n')).length }

structure Extent where
  start : Position
  stop : Position
  deriving DecidableEq, Repr

namespace Extent

def ofSpan (text : List Char) (s : Span) : Extent :=
  { start := .ofPlace text s.start, stop := .ofPlace text s.stop }

def columns? (line : Nat) (e : Extent) : Option Span :=
  if e.start.line = line ∧ e.stop.line = line then some ⟨e.start.column, e.stop.column⟩ else none

/-- What is told of a span that goes over lines. -/
def note? (e : Extent) : Option String :=
  if e.start.line = e.stop.line then none
  else some <|
    s!"on line {e.start.line + 1} (column {e.start.column + 1}) " ++
      s!"through line {e.stop.line + 1} (column {e.stop.column})"

end Extent

def withoutReturn (line : List Char) : List Char :=
  if line.getLast? = some '\x0d' then line.dropLast else line

/-- The lines of a text. A line feed ends a line, alone or after a carriage return; nothing is left
of a line that is empty at the end of the text. -/
def linesOf (text : List Char) : List (List Char) :=
  let parts := text.splitOn '\n'
  parts.dropLast.map withoutReturn ++ parts.getLast?.toList.filter (· ≠ [])

/-! ## Marks -/

/-- Marks below a line, one at least for each span. -/
def marks : (column : Nat) → List Span → List Char
  | _, [] => []
  | column, s :: rest =>
    let width := max 1 (s.stop - s.start)
    List.replicate (s.start - column) ' ' ++ List.replicate width '^' ++
      marks (max column s.start + width) rest

/-- What stands before a line: its number, filled up to the width of the last, if there are several
lines. -/
def margin (count line : Nat) : List Char :=
  if count ≤ 1 then List.replicate 4 ' '
  else
    let number := (toString (line + 1)).toList
    List.replicate ((toString count).length - number.length) ' ' ++ number ++ [':', ' ']

def markedLine (count line : Nat) (text : List Char) (extents : List Extent) : List (List Char) :=
  let margin := margin count line
  let columns := extents.filterMap (·.columns? line)
  let below := if columns = [] then [] else [margin.map (fun _ => ' ') ++ marks 0 columns]
  (margin ++ text) :: below

def markedText (text : List Char) (extents : List Extent) : List (List Char) :=
  let count := (text.splitOn '\n').length
  (linesOf text).zipIdx.flatMap fun (line, i) => markedLine count i line extents

def rule : List Char := List.replicate 79 '~'

def inOrder (span : Span) : Option Span → List Span
  | none => [span]
  | some other => if other.start < span.start then [other, span] else [span, other]

def Trouble.report (text : List Char) (what : Trouble) (spans : List Span) : List String :=
  let extents := spans.map (Extent.ofSpan text)
  let shown := markedText text extents
  let framed := if '\n' ∈ text then rule :: shown ++ [rule] else shown
  "regex parse error:" :: framed.map String.ofList ++ extents.filterMap Extent.note? ++
    ["error: " ++ what.message]

def Fault.report (pattern : String) : Fault → String
  | trouble what span other =>
    "\n".intercalate (what.report pattern.toList (inOrder span other))
  | noWordEdges => "error building NFA"
  | tooBig => s!"Compiled regex exceeds size limit of {sizeLimit} bytes."

end FeatureCard.Pattern
