/-!
# Ranges of characters

Character properties are kept as ordered lists of ranges of code points.
-/

namespace SpeciesBrowser.Text

abbrev CharRange := Nat × Nat

/-- Whether a character lies in a range; both ends belong to it. -/
def isBetween (first last : Nat) (symbol : Char) : Bool :=
  first ≤ symbol.toNat && symbol.toNat ≤ last

/-- Whether a character lies in one of the ranges. -/
def inRanges (ranges : Array CharRange) (symbol : Char) : Bool :=
  ranges.any fun (first, last) => isBetween first last symbol

end SpeciesBrowser.Text
