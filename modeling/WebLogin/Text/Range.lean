/-!
# Ranges of characters

A property of characters is given by ranges of their numbers, in ascending order. A property with
several values has a group of ranges for each value, and a default for the characters in no group.
-/

namespace WebLogin.Text

/-- Whether a character lies in one of some ranges. -/
def inRanges (ranges : List (Nat × Nat)) (c : Char) : Bool :=
  ranges.any fun r => r.1 ≤ c.toNat && c.toNat ≤ r.2

/-- The value of the group in which a character lies. -/
def groupOf? {α : Type} (groups : List (α × List (Nat × Nat))) (c : Char) : Option α :=
  (groups.find? fun g => inRanges g.2 c).map (·.1)

end WebLogin.Text
