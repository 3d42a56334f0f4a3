/-!
Sets of characters given as ranges of code points.
-/

set_option autoImplicit false

namespace PdfElements.Text

/-- A set of code points: inclusive ranges in ascending order. -/
abbrev CodeRanges := Array (Nat × Nat)

def CodeRanges.holds (ranges : CodeRanges) (character : Char) : Bool :=
  ranges.any fun (first, last) => first ≤ character.toNat && character.toNat ≤ last

end PdfElements.Text
