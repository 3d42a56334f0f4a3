import PdfElements.Content.Command

/-! The instructions that operators yield: which of them are for one operator alone, such as those
that save or restore the graphics state, which of them can fail, and which are about the open text
object. -/

set_option autoImplicit false

namespace PdfElements

variable {K : Type}

def Command.stacks : Command K → Bool
  | .save | .restore => true
  | _ => false

/-- The operator that a command is for, where no other one yields it: those that save, restore, and
declare the box of a glyph. -/
def Command.owner? : Command K → Option Operator
  | .save => some .save
  | .restore => some .restore
  | .glyphBox _ _ => some .glyphBox
  | _ => none

/-- Whether a command can fail. The commands that can need a text object, or look something up. -/
def Command.mayFail : Command K → Bool
  | .graphicsState _ | .moveText _ | .textMatrix _ | .nextLine | .show _ | .adjust _
  | .selectSpace _ _ | .external _ => true
  | _ => false

/-! ### What is read, whatever the fault is otherwise -/

namespace Operands

theorem toOption_bind {Fault α β : Type} (first : Except Fault α) (next : α → Except Fault β) :
    (first >>= next).toOption = first.toOption.bind fun value => (next value).toOption := by
  cases first <;> rfl

theorem toOption_pure {Fault α : Type} (value : α) :
    (pure value : Except Fault α).toOption = some value := rfl

theorem toOption_ok {Fault α : Type} (value : α) :
    (Except.ok value : Except Fault α).toOption = some value := rfl

theorem toOption_error {Fault α : Type} (fault : Fault) :
    (Except.error fault : Except Fault α).toOption = none := rfl

theorem toOption_expect {α : Type} (fault : OperandFault K) (value? : Option α) :
    (expect fault value?).toOption = value? := by
  cases value? <;> rfl

theorem toOption_stringOf (operand : Operand K) : (stringOf operand).toOption = operand.string? :=
  toOption_expect _ _

theorem toOption_numberOf [Scalar K] (operand : Operand K) :
    (numberOf operand).toOption = operand.number? :=
  toOption_expect _ _

end Operands

/-! ### Which commands are read -/

def Command.inText : Command K → Bool
  | .moveText _ | .textMatrix _ | .nextLine | .show _ | .adjust _ => true
  | _ => false

namespace Operator

/-- Instructions with a property, unless the operands do not suit. -/
private def Yields (property : List (Instruction K) → Prop)
    (read : Except (OperandFault K) (List (Instruction K))) : Prop :=
  ∀ instructions, read = .ok instructions → property instructions

namespace Yields

variable {property : List (Instruction K) → Prop}

private theorem pure {instructions : List (Instruction K)} (holds : property instructions) :
    Yields property (Pure.pure instructions) := by
  intro found same
  cases same
  exact holds

private theorem error (fault : OperandFault K) : Yields property (.error fault) := by
  intro found same
  cases same

private theorem bind {α : Type} {operand : Except (OperandFault K) α}
    {next : α → Except (OperandFault K) (List (Instruction K))}
    (yields : ∀ value, Yields property (next value)) : Yields property (operand >>= next) := by
  intro found same
  cases operand with
  | error fault => cases same
  | ok value => exact yields value found same

end Yields

variable [Scalar K]

/-- A command that one operator alone yields is yielded by that operator. -/
theorem owner_of_read {operator : Operator} {stack : List (Operand K)}
    {instructions : List (Instruction K)} (found : operator.read stack = .ok instructions) :
    ∀ instruction ∈ instructions, ∀ owner ∈ instruction.command.owner?, operator = owner := by
  have owned : Yields (fun instructions => ∀ instruction ∈ instructions,
      ∀ owner ∈ instruction.command.owner?, operator = owner) (operator.read stack) := by
    cases operator with
    | save | restore | closePath | stroke | closeStroke | fill | fillObsolete | fillEvenOdd
    | fillStroke | fillStrokeEvenOdd | closeFillStroke | closeFillStrokeEvenOdd | endPath | clip
    | clipEvenOdd | beginText | endText | nextLine | strokingColor | strokingColorOrPattern
    | fillingColor | fillingColorOrPattern => exact .pure (by simp [Command.owner?])
    | concat | move | line | curve | curveFromCurrent | curveToTarget | rectangle
    | characterSpacing | wordSpacing | horizontalScaling | leading | rise | moveText
    | moveTextSetLeading | textMatrix | glyphWidth | glyphBox | strokingGray | fillingGray
    | strokingRgb | fillingRgb | strokingCmyk | fillingCmyk =>
        exact .bind fun _ => .pure (by
          simp [Command.owner?, read.gray, read.rgb, read.cmyk, read.device])
    | graphicsState | textMode | showText | showNextLine | strokingSpace | fillingSpace
    | external =>
        exact .bind fun _ => .bind fun _ => .pure (by simp [Command.owner?])
    | showNextLineSpaced =>
        exact .bind fun _ => .bind fun _ => .bind fun _ => .pure (by simp [Command.owner?])
    | showAdjusted =>
        refine .bind fun _ => .bind fun items => .pure ?_
        intro instruction member
        obtain ⟨command, listed, rfl⟩ := List.mem_map.mp member
        obtain ⟨item, _, shown⟩ := List.mem_filterMap.mp listed
        split at shown <;> cases shown <;> exact nofun
    | font =>
        refine .bind fun size => ?_
        split
        · exact .bind fun name => .pure (by simp [Command.owner?])
        · exact .error _
    | inlineImage =>
        simp only [read]
        split
        · exact .pure (by simp [Command.owner?])
        · exact .error _
  exact owned instructions found

/-- Operators other than those for it neither save nor restore. -/
theorem stacks_of_read {operator : Operator} {stack : List (Operand K)}
    {instructions : List (Instruction K)} (noSave : operator ≠ .save)
    (noRestore : operator ≠ .restore) (found : operator.read stack = .ok instructions) :
    ∀ instruction ∈ instructions, instruction.command.stacks = false := by
  intro instruction member
  have owned := owner_of_read found instruction member
  cases same : instruction.command with
  | save => exact absurd (owned .save (by rw [same]; rfl)) noSave
  | restore => exact absurd (owned .restore (by rw [same]; rfl)) noRestore
  | _ => rfl

/-- Operators other than those that combine others yield nothing that can fail behind their first
instruction. -/
theorem mayFail_of_read {operator : Operator} {stack : List (Operand K)}
    {instructions : List (Instruction K)} (notAdjusted : operator ≠ .showAdjusted)
    (notNextLine : operator ≠ .showNextLine) (notSpaced : operator ≠ .showNextLineSpaced)
    (found : operator.read stack = .ok instructions) :
    ∀ later ∈ instructions.tail, later.command.mayFail = false := by
  have certain : Yields (fun instructions => ∀ later ∈ instructions.tail,
      later.command.mayFail = false) (operator.read stack) := by
    cases operator with
    | showAdjusted => exact absurd rfl notAdjusted
    | showNextLine => exact absurd rfl notNextLine
    | showNextLineSpaced => exact absurd rfl notSpaced
    | save | restore | closePath | stroke | closeStroke | fill | fillObsolete | fillEvenOdd
    | fillStroke | fillStrokeEvenOdd | closeFillStroke | closeFillStrokeEvenOdd | endPath | clip
    | clipEvenOdd | beginText | endText | nextLine | strokingColor | strokingColorOrPattern
    | fillingColor | fillingColorOrPattern => exact .pure (by simp [Command.mayFail])
    | concat | move | line | curve | curveFromCurrent | curveToTarget | rectangle
    | characterSpacing | wordSpacing | horizontalScaling | leading | rise | moveText
    | moveTextSetLeading | textMatrix | glyphWidth | glyphBox | strokingGray | fillingGray
    | strokingRgb | fillingRgb | strokingCmyk | fillingCmyk =>
        exact .bind fun _ => .pure (by
          simp [Command.mayFail, read.gray, read.rgb, read.cmyk, read.device])
    | graphicsState | textMode | showText | strokingSpace | fillingSpace | external =>
        exact .bind fun _ => .bind fun _ => .pure (by simp)
    | font =>
        refine .bind fun size => ?_
        split
        · exact .bind fun name => .pure (by simp)
        · exact .error _
    | inlineImage =>
        simp only [read]
        split
        · exact .pure (by simp)
        · exact .error _
  exact certain instructions found

/-- The operators that show text do nothing else, but for the one that sets the spacing too. -/
theorem inText_of_read {operator : Operator}
    (shows : operator ∈ [.showText, .showAdjusted, .showNextLine]) {stack : List (Operand K)}
    {instructions : List (Instruction K)} (found : operator.read stack = .ok instructions) :
    ∀ instruction ∈ instructions, instruction.command.inText = true := by
  have inText : Yields (fun instructions => ∀ instruction ∈ instructions,
      instruction.command.inText = true) (operator.read stack) := by
    simp only [List.mem_cons, List.not_mem_nil, or_false] at shows
    rcases shows with rfl | rfl | rfl
    · exact .bind fun _ => .bind fun _ => .pure (by simp [Command.inText])
    · refine .bind fun _ => .bind fun items => .pure ?_
      intro instruction member
      obtain ⟨command, listed, rfl⟩ := List.mem_map.mp member
      obtain ⟨item, _, shown⟩ := List.mem_filterMap.mp listed
      split at shown <;> cases shown <;> rfl
    · exact .bind fun _ => .bind fun _ => .pure (by simp [Command.inText])
  exact inText instructions found

omit [Scalar K] in
theorem name_of_ofName? {name : String} {operator : Operator}
    (found : ofName? name = some operator) : operator.name = name := by
  have named : ∀ entry ∈ table, entry.2.name = entry.1 := by decide
  obtain ⟨earlier, later, split, _⟩ := List.lookup_eq_some_iff.mp found
  exact named (name, operator) (split ▸ List.mem_append_right _ List.mem_cons_self)

end Operator

end PdfElements
