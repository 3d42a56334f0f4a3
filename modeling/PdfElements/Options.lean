/-!
How a document is extracted.
-/

set_option autoImplicit false

namespace PdfElements

structure ExtractionOptions where
  depthLimit : Nat := 10
  /-- How many decimal places of sizes and positions are kept; without a number, all. -/
  places? : Option Nat := none
  collectWarnings : Bool := true
  pageLimit? : Option Nat := none
  deriving DecidableEq, Repr

end PdfElements
