/-!
# Why a document cannot be read

The text breaks the grammar, or it ends too early, or a value is not of the kind that its place
asks for. The first problem from the left decides.
-/

namespace FeatureCard.Json

inductive ReadFault where
  | malformed
  | unfinished
  | mistyped
  deriving DecidableEq, Repr

/-- The result of reading: a value and the text after it. -/
abbrev Read (α : Type) := Except ReadFault (α × List Char)

/-- The result of passing over text: the text after it. -/
abbrev Skip := Except ReadFault (List Char)

end FeatureCard.Json
