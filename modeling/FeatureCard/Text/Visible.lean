import FeatureCard.Text.Extender
import FeatureCard.Text.Unprintable

/-!
# Visible characters

A character is visible if it shows by itself where it stands: it has a shape of its own, and does
not join the character before.
-/

namespace FeatureCard.Text

/-- Letters that only fill the place of another. -/
def fillers : Ranges := [(0x115F, 0x1160), (0x3164, 0x3164), (0xFFA0, 0xFFA0)]

def isVisible (c : Char) : Bool :=
  !(extenders.has c || fillers.has c || unprintable.has c)

end FeatureCard.Text
