import PdfElements.ColorSpace
import PdfElements.Content.Operand
import PdfElements.Content.Operator
import PdfElements.Graphics.Text
import PdfElements.Path

/-!
Commands: what operators do, with the operands that they need. An operator takes its operands from
the end of those before it, so they are read from a stack with the last one on top; an operator
that combines others yields several commands.
-/

set_option autoImplicit false

namespace PdfElements

/-- Which of the two current colors is meant. -/
inductive ColorRole where
  | stroking
  | filling
  deriving DecidableEq, Repr

/-- One thing to do. Every command is done as a whole or not at all. -/
inductive Command (K : Type) where
  | save
  | restore
  | concat (matrix : Matrix K)
  | graphicsState (name : String)
  | move (target : Point K)
  | line (target : Point K)
  | curve (control₁ control₂ target : Point K)
  | curveFromCurrent (control₂ target : Point K)
  | curveToTarget (control₁ target : Point K)
  | closePath
  | rectangle (corner size : Point K)
  | paint (paints : List Paint)
  | clip (rule : FillRule)
  | beginText
  | endText
  | characterSpacing (value : K)
  | wordSpacing (value : K)
  | horizontalScaling (value : K)
  | leading (value : K)
  | rise (value : K)
  | textMode (mode : TextMode)
  | font (name : String) (size : K)
  | moveText (distance : Point K)
  | textMatrix (matrix : Matrix K)
  | nextLine
  | show (string : List UInt8)
  /-- Moves the pen by thousandths of the font size against the direction of text. -/
  | adjust (amount : K)
  | glyphWidth
  /-- Declares the box of the glyph that is being drawn by two of its corners. -/
  | glyphBox (first second : Point K)
  | selectSpace (role : ColorRole) (name : String)
  | deviceSpace (role : ColorRole) (space : ColorSpace)
  | components (role : ColorRole) (values : List Float32)
  | external (name : String)
  | inlineImage (image : InlineImage K)

structure Instruction (K : Type) where
  operator : Operator
  command : Command K

inductive OperandFault (K : Type) where
  | tooFew (expected actual : Nat)
  | notNumber (operand : Operand K)
  | notName (operand : Operand K)
  | notString (operand : Operand K)
  | notArray (operand : Operand K)
  | unknownMode (value : K)
  | malformedImage

namespace OperandFault

variable {K : Type} [Scalar K]

def message : OperandFault K → String
  | tooFew expected actual =>
    "expected " ++ toString expected ++ " operands, got " ++ toString actual
  | notNumber operand => "expected a number, got " ++ operand.text
  | notName operand => "expected a name, got " ++ operand.text
  | notString operand => "expected a string, got " ++ operand.text
  | notArray operand => "expected an array, got " ++ operand.text
  | unknownMode value => "invalid render mode " ++ Scalar.plainText value
  | malformedImage => "malformed inline image"

end OperandFault

namespace Operands

variable {K : Type}

def expect {α : Type} (fault : OperandFault K) : Option α → Except (OperandFault K) α
  | some value => .ok value
  | none => .error fault

def last : List (Operand K) → Except (OperandFault K) (Operand K)
  | operand :: _ => .ok operand
  | [] => .error (.tooFew 1 0)

def nameOf (operand : Operand K) : Except (OperandFault K) String :=
  expect (.notName operand) operand.name?

def stringOf (operand : Operand K) : Except (OperandFault K) (List UInt8) :=
  expect (.notString operand) operand.string?

def arrayOf (operand : Operand K) : Except (OperandFault K) (List (Operand K)) :=
  expect (.notArray operand) operand.array?

variable [Scalar K]

def numberOf (operand : Operand K) : Except (OperandFault K) K :=
  expect (.notNumber operand) operand.number?

def pointOf (x y : Operand K) : Except (OperandFault K) (Point K) := do
  return ⟨← numberOf x, ← numberOf y⟩

def one : List (Operand K) → Except (OperandFault K) K
  | x :: _ => numberOf x
  | stack => .error (.tooFew 1 stack.length)

def point : List (Operand K) → Except (OperandFault K) (Point K)
  | y :: x :: _ => pointOf x y
  | stack => .error (.tooFew 2 stack.length)

def three : List (Operand K) → Except (OperandFault K) (K × K × K)
  | z :: y :: x :: _ => do return (← numberOf x, ← numberOf y, ← numberOf z)
  | stack => .error (.tooFew 3 stack.length)

def twoPoints : List (Operand K) → Except (OperandFault K) (Point K × Point K)
  | y₂ :: x₂ :: y₁ :: x₁ :: _ => do return (← pointOf x₁ y₁, ← pointOf x₂ y₂)
  | stack => .error (.tooFew 4 stack.length)

def threePoints : List (Operand K) → Except (OperandFault K) (Point K × Point K × Point K)
  | y₃ :: x₃ :: y₂ :: x₂ :: y₁ :: x₁ :: _ => do
    return (← pointOf x₁ y₁, ← pointOf x₂ y₂, ← pointOf x₃ y₃)
  | stack => .error (.tooFew 6 stack.length)

def matrix (stack : List (Operand K)) : Except (OperandFault K) (Matrix K) := do
  let (first, second, third) ← threePoints stack
  return ⟨first.x, first.y, second.x, second.y, third.x, third.y⟩

/-- All numbers of the stack, the lowest first. -/
def allComponents (stack : List (Operand K)) : List Float32 :=
  stack.reverse.filterMap fun operand => operand.number?.map Scalar.toSingle

/-- The commands that the items of an array of strings and adjustments stand for. -/
def showing (items : List (Operand K)) : List (Command K) :=
  items.filterMap fun item =>
    match item.string?, item.number? with
    | some bytes, _ => some (.show bytes)
    | none, some amount => some (.adjust amount)
    | none, none => none

end Operands

namespace Operator

open Operands

variable {K : Type} [Scalar K]

def read (operator : Operator) (stack : List (Operand K)) :
    Except (OperandFault K) (List (Instruction K)) := do
  let single (command : Command K) : List (Instruction K) := [⟨operator, command⟩]
  let all (commands : List (Command K)) : List (Instruction K) :=
    commands.map (Instruction.mk operator)
  match operator with
  | save => return single .save
  | restore => return single .restore
  | concat => return single (.concat (← matrix stack))
  | graphicsState => return single (.graphicsState (← nameOf (← last stack)))
  | move => return single (.move (← point stack))
  | line => return single (.line (← point stack))
  | curve =>
    let (control₁, control₂, target) ← threePoints stack
    return single (.curve control₁ control₂ target)
  | curveFromCurrent =>
    let (control₂, target) ← twoPoints stack
    return single (.curveFromCurrent control₂ target)
  | curveToTarget =>
    let (control₁, target) ← twoPoints stack
    return single (.curveToTarget control₁ target)
  | closePath => return single .closePath
  | rectangle =>
    let (corner, size) ← twoPoints stack
    return single (.rectangle corner size)
  | stroke => return single (.paint [.stroke])
  | closeStroke => return all [.closePath, .paint [.stroke]]
  | fill => return single (.paint [.fill .nonZero])
  | fillObsolete => return single (.paint [.fill .nonZero])
  | fillEvenOdd => return single (.paint [.fill .evenOdd])
  | fillStroke => return single (.paint [.fill .nonZero, .stroke])
  | fillStrokeEvenOdd => return single (.paint [.fill .evenOdd])
  | closeFillStroke => return all [.closePath, .paint [.fill .nonZero, .stroke]]
  | closeFillStrokeEvenOdd => return all [.closePath, .paint [.fill .evenOdd]]
  | endPath => return single (.paint [])
  | clip => return single (.clip .nonZero)
  | clipEvenOdd => return single (.clip .evenOdd)
  | beginText => return single .beginText
  | endText => return single .endText
  | characterSpacing => return single (.characterSpacing (← one stack))
  | wordSpacing => return single (.wordSpacing (← one stack))
  | horizontalScaling => return single (.horizontalScaling (← one stack))
  | leading => return single (.leading (← one stack))
  | rise => return single (.rise (← one stack))
  | textMode =>
    let value ← one stack
    return single (.textMode
      (← expect (.unknownMode value) (TextMode.ofNumber? (Scalar.truncate value))))
  | font =>
    let size ← one stack
    match stack with
    | _ :: operand :: _ => return single (.font (← nameOf operand) size)
    | _ => .error (.tooFew 2 stack.length)
  | moveText => return single (.moveText (← point stack))
  | moveTextSetLeading =>
    let distance ← point stack
    return all [.moveText distance, .leading (-distance.y)]
  | textMatrix => return single (.textMatrix (← matrix stack))
  | nextLine => return single .nextLine
  | showText => return single (.show (← stringOf (← last stack)))
  | showAdjusted => return all (showing (← arrayOf (← last stack)))
  | showNextLine =>
    let bytes ← stringOf (← last stack)
    return [⟨nextLine, .nextLine⟩, ⟨operator, .show bytes⟩]
  | showNextLineSpaced =>
    let bytes ← stringOf (← last stack)
    let spacing ← point (stack.drop 1)
    return [⟨operator, .wordSpacing spacing.x⟩, ⟨operator, .characterSpacing spacing.y⟩,
      ⟨nextLine, .nextLine⟩, ⟨operator, .show bytes⟩]
  | glyphWidth =>
    let _ ← point stack
    return single .glyphWidth
  | glyphBox =>
    let (_, first, second) ← threePoints stack
    return single (.glyphBox first second)
  | strokingSpace => return single (.selectSpace .stroking (← nameOf (← last stack)))
  | fillingSpace => return single (.selectSpace .filling (← nameOf (← last stack)))
  | strokingColor | strokingColorOrPattern =>
    return single (.components .stroking (allComponents stack))
  | fillingColor | fillingColorOrPattern =>
    return single (.components .filling (allComponents stack))
  | strokingGray => return gray all .stroking (← one stack)
  | fillingGray => return gray all .filling (← one stack)
  | strokingRgb => return rgb all .stroking (← three stack)
  | fillingRgb => return rgb all .filling (← three stack)
  | strokingCmyk => return cmyk all .stroking (← twoPoints stack)
  | fillingCmyk => return cmyk all .filling (← twoPoints stack)
  | external => return single (.external (← nameOf (← last stack)))
  | inlineImage =>
    match stack with
    | [.literal data, .dictionary entries] => return single (.inlineImage ⟨entries, data⟩)
    | _ => .error .malformedImage
where
  /-- Selects a device's space and a color of it. -/
  device (all : List (Command K) → List (Instruction K)) (role : ColorRole) (space : ColorSpace)
      (values : List K) : List (Instruction K) :=
    all [.deviceSpace role space, .components role (values.map Scalar.toSingle)]
  gray (all : List (Command K) → List (Instruction K)) (role : ColorRole) (value : K) :
      List (Instruction K) :=
    device all role .gray [value]
  rgb (all : List (Command K) → List (Instruction K)) (role : ColorRole) (values : K × K × K) :
      List (Instruction K) :=
    device all role .rgb [values.1, values.2.1, values.2.2]
  cmyk (all : List (Command K) → List (Instruction K)) (role : ColorRole)
      (values : Point K × Point K) : List (Instruction K) :=
    device all role .cmyk [values.1.x, values.1.y, values.2.x, values.2.y]

end Operator

end PdfElements
