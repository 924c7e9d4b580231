/-!
# Numbers in hexadecimal

Upper-case digits, filled up with zeros on the left. A number with more digits keeps them all.
-/

namespace FeatureCard.Text

/-- The digits of `n`, at least `width` of them. -/
def hex (width n : Nat) : String :=
  let digits := (Nat.toDigits 16 n).map Char.toUpper
  String.ofList (List.replicate (width - digits.length) '0' ++ digits)

def hexWord (n : UInt16) : String :=
  "0x" ++ hex 4 n.toNat

end FeatureCard.Text
