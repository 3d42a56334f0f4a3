import PdfElements.Scalar

/-!
XML elements and their text, indented by two spaces a level.
-/

set_option autoImplicit false

namespace PdfElements

/-- What an element without elements in it holds. -/
inductive XmlLeaf (K : Type) where
  | boolean (value : Bool)
  | integer (value : Int)
  | number (value : K)
  | text (value : String)
  deriving DecidableEq, Repr

/-- An element with a tag: it holds a value, or other elements. -/
inductive Xml (K : Type) where
  | leaf (tag : String) (value : XmlLeaf K)
  | node (tag : String) (children : List (Xml K))
  deriving Inhabited

namespace Xml

def escape (character : Char) : String :=
  if character = '&' then "&amp;"
  else if character = '<' then "&lt;"
  else if character = '>' then "&gt;"
  else if character = '\'' then "&apos;"
  else if character = '"' then "&quot;"
  else character.toString

def escaped (text : String) : String := String.join (text.toList.map escape)

def openTag (tag : String) : String := "<" ++ tag ++ ">"

def closeTag (tag : String) : String := "</" ++ tag ++ ">"

def indentation (level : Nat) : String := String.ofList (List.replicate (2 * level) ' ')

variable {K : Type} [Scalar K]

def leafText : XmlLeaf K → String
  | .boolean value => if value then "true" else "false"
  | .integer value => toString value
  | .number value => Scalar.plainText value
  | .text value => value

mutual

/-- The lines of an element at a level. A value is on one line with its tags. -/
def lines (level : Nat) : Xml K → List String
  | .leaf tag value =>
    [indentation level ++ openTag tag ++ escaped (leafText value) ++ closeTag tag]
  | .node tag children =>
    (indentation level ++ openTag tag) ::
      (childLines (level + 1) children ++ [indentation level ++ closeTag tag])

def childLines (level : Nat) : List (Xml K) → List String
  | [] => []
  | child :: rest => lines level child ++ childLines level rest

end

def render (element : Xml K) : String := String.intercalate "\n" (lines 0 element)

end Xml

end PdfElements
