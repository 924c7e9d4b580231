/-!
# Faults of written patterns

What can be wrong with a written pattern, and where.
-/

namespace FeatureCard.Pattern

structure Span where
  start : Nat
  stop : Nat
  deriving DecidableEq, Repr

inductive Trouble where
  | badBracketEscape
  | backwardRange
  | badRangeEnd
  | openBracket
  | badNumber
  | noHex
  | noSuchChar
  | badHexDigit
  | unfinishedEscape
  | unknownEscape
  | danglingNegation
  | repeatedFlag
  | repeatedNegation
  | unfinishedFlags
  | unknownFlag
  | repeatedName
  | noName
  | badName
  | unfinishedName
  | openGroup
  | unopenedGroup
  | backwardCount
  | noCount
  | openCount
  | nothingToRepeat
  | openWordEdge
  | unknownWordEdge
  | openWordEdgeOrCount
  | badProperty
  | backReference
  | lookAround
  | notInBytes
  | brokenChars
  | unknownProperty
  | unknownPropertyValue
  | tooDeep
  | noWordData
  | noCaseData
  deriving DecidableEq, Repr

/-- How deep the parts of a pattern may lie within each other. -/
def depthLimit : Nat := 250

namespace Trouble

def message : Trouble → String
  | badBracketEscape => "invalid escape sequence found in character class"
  | backwardRange => "invalid character class range, the start must be <= the end"
  | badRangeEnd => "invalid range boundary, must be a literal"
  | openBracket => "unclosed character class"
  | badNumber => "decimal literal invalid"
  | noHex => "hexadecimal literal empty"
  | noSuchChar => "hexadecimal literal is not a Unicode scalar value"
  | badHexDigit => "invalid hexadecimal digit"
  | unfinishedEscape => "incomplete escape sequence, reached end of pattern prematurely"
  | unknownEscape => "unrecognized escape sequence"
  | danglingNegation => "dangling flag negation operator"
  | repeatedFlag => "duplicate flag"
  | repeatedNegation => "flag negation operator repeated"
  | unfinishedFlags => "expected flag but got end of regex"
  | unknownFlag => "unrecognized flag"
  | repeatedName => "duplicate capture group name"
  | noName => "empty capture group name"
  | badName => "invalid capture group character"
  | unfinishedName => "unclosed capture group name"
  | openGroup => "unclosed group"
  | unopenedGroup => "unopened group"
  | backwardCount => "invalid repetition count range, the start must be <= the end"
  | noCount => "repetition quantifier expects a valid decimal"
  | openCount => "unclosed counted repetition"
  | nothingToRepeat => "repetition operator missing expression"
  | openWordEdge =>
    "special word boundary assertion is either unclosed or contains an invalid character"
  | unknownWordEdge =>
    "unrecognized special word boundary assertion, " ++
      "valid choices are: start, end, start-half or end-half"
  | openWordEdgeOrCount =>
    "found either the beginning of a special word boundary or a bounded repetition on a \\b " ++
      "with an opening brace, but no closing brace"
  | badProperty => "invalid Unicode character class"
  | backReference => "backreferences are not supported"
  | lookAround => "look-around, including look-ahead and look-behind, is not supported"
  | notInBytes => "Unicode not allowed here"
  | brokenChars => "pattern can match invalid UTF-8"
  | unknownProperty => "Unicode property not found"
  | unknownPropertyValue => "Unicode property value not found"
  | tooDeep => s!"exceed the maximum number of nested parentheses/brackets ({depthLimit})"
  | noWordData =>
    "Unicode-aware Perl class not found (make sure the unicode-perl feature is enabled)"
  | noCaseData =>
    "Unicode-aware case insensitivity matching is not available " ++
      "(make sure the unicode-case feature is enabled)"

end Trouble

inductive Fault where
  /-- A trouble, where it is, and where what it stands against is. -/
  | trouble (what : Trouble) (span : Span) (other : Option Span)
  | noWordEdges
  | tooBig
  deriving DecidableEq, Repr

end FeatureCard.Pattern
