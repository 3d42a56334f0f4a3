import PdfElements.Interpretation.Execution
import PdfElements.Proofs.Content.Lexing
import PdfElements.Proofs.Content.Writing

/-! What operators find in the resources under a name. Keys of resources are bytes and so are the
names that streams are written with, but operators are given text, and look for its bytes. -/

set_option autoImplicit false

namespace PdfElements

/-! ### Writing keys as names -/

namespace Content

/-- A byte of a key, behind a number sign unless it is a regular one of ASCII and no such sign. -/
def HexDigits.escapedKey (digits : HexDigits) (byte : UInt8) : List UInt8 :=
  if isRegular byte && byte != 0x23 && byte ≤ 0x7E then [byte] else 0x23 :: digits.pair byte

def HexDigits.key (digits : HexDigits) (key : List UInt8) : List UInt8 :=
  0x2F :: key.flatMap digits.escapedKey

theorem HexDigits.escapes_escapedKey (digits : HexDigits) :
    digits.Escapes digits.escapedKey := by
  intro byte
  unfold escapedKey
  split
  · next plain =>
      simp only [Bool.and_eq_true, bne_iff_ne] at plain
      exact .inl ⟨rfl, plain.1⟩
  · exact .inr rfl

variable {K : Type} [Scalar K]

/-- A key is read as the name that its bytes are the text of, whatever bytes those are. -/
theorem Lexer.next_key (digits : HexDigits) (key : List UInt8) (lexer : Lexer) (rest : List UInt8)
    (idle : lexer.Idle) (running : lexer.failed = false)
    (stands : lexer.left = digits.key key ++ 0x20 :: rest) :
    (lexer.next K).1 = some (.ok (.operand (.name (Text.decodeUtf8 key)))) ∧
      (lexer.next K).2.left = 0x20 :: rest := by
  have start : Content.skipBlanks lexer.left =
      0x2F :: (key.flatMap digits.escapedKey ++ 0x20 :: rest) := by
    rw [stands]
    rfl
  have ends : endsWord (0x20 :: rest) = true := rfl
  have found : next? (K := K) lexer.input.size (lexer.left.length + 1) lexer.left =
      .ok (some (.operand (.name (Text.decodeUtf8 key)), 0x20 :: rest)) := by
    rw [next_operand start rfl, operandFuel, operand_name,
      name_written digits.escapes_escapedKey key ends]
    rfl
  rw [idle.next_of_token running found]
  exact ⟨rfl, left_behind found⟩

end Content

/-! ### Looking for keys

What operators do with what the resources hold under a name, if they hold anything. -/

/-- What resources hold under a key of one of their categories. -/
def ObjectStore.resource? (store : ObjectStore) (resources : Located Dictionary)
    (category : String) (key : List UInt8) : Option (Located Object) :=
  (store.dictionaryAt? resources category).bind fun entries => entries.get? key

variable {K : Type} [Scalar K]

def Interpreter.selectEntry (setting : Setting) (name : String) (size : K)
    (held? : Option (Located Object)) (interpreter : Interpreter K) : Interpreter K :=
  match held? with
  | some object => interpreter.selectFont setting name size object
  | none =>
    (interpreter.warnFont setting name
      ("font /" ++ name ++ " not found in resources")).setFont none name size

theorem Interpreter.selectNamedFont_eq (setting : Setting) (name : String) (size : K)
    (interpreter : Interpreter K) :
    interpreter.selectNamedFont setting name size =
      interpreter.selectEntry setting name size
        (setting.store.resource? interpreter.state.resources "Font" (Text.encodeUtf8 name)) :=
  rfl

namespace Surroundings

variable (surroundings : Surroundings K)

def drawEntry (name : String) (held? : Option (Located Object)) (interpreter : Interpreter K) :
    Outcome (CommandFault K) K Unit :=
  match held? with
  | none => .failed (.unknownExternal name) interpreter
  | some object =>
    match (surroundings.store.resolveAt object).as? Object.stream? with
    | none => .failed (.externalNotStream name) interpreter
    | some stream =>
      let subtype := ((stream.value.entries.find? "Subtype").bind Object.name?).map Text.decodeUtf8
      if subtype = some "Form" then (surroundings.drawForm stream interpreter).mapFault .nested
      else if subtype = some "Image" && !interpreter.state.inGlyph then
        .done (interpreter.paintImage surroundings.setting stream.value)
      else .done interpreter

def selectEntryState (name : String) (held? : Option (Located Object)) (interpreter : Interpreter K) :
    Outcome (CommandFault K) K Unit :=
  let state? := (held?.map surroundings.store.resolveAt).bind fun object =>
    object.as? Object.dictionary?
  match state? with
  | none => .failed (.unknownState name) interpreter
  | some state =>
    match surroundings.store.arrayAt? state "Font" with
    | none => .done interpreter
    | some ⟨[font, size], place⟩ =>
      match (surroundings.store.resolve size).number? with
      | none => .failed (.stateFontSize (surroundings.store.resolve size)) interpreter
      | some size =>
        .done (interpreter.selectFont surroundings.setting font.fontName size
          ⟨font, .item place 0⟩)
    | some _ => .failed .stateFont interpreter

theorem drawExternal_eq (name : String) (interpreter : Interpreter K) :
    surroundings.drawExternal name interpreter =
      surroundings.drawEntry name (surroundings.store.resource? interpreter.state.resources
        "XObject" (Text.encodeUtf8 name)) interpreter := by
  unfold drawExternal external? drawEntry ObjectStore.resource? Located.find?
  dsimp only
  cases (surroundings.store.dictionaryAt? interpreter.state.resources "XObject").bind
      fun objects => objects.get? (Text.encodeUtf8 name) with
  | none => rfl
  | some object =>
      dsimp only
      cases (surroundings.store.resolveAt object).as? Object.stream? <;> rfl

theorem selectState_eq (name : String) (interpreter : Interpreter K) :
    surroundings.selectState name interpreter =
      surroundings.selectEntryState name (surroundings.store.resource? interpreter.state.resources
        "ExtGState" (Text.encodeUtf8 name)) interpreter := by
  have entry : (surroundings.store.dictionaryAt? interpreter.state.resources "ExtGState").bind
        (fun states => surroundings.store.dictionaryAt? states name) =
      ((surroundings.store.resource? interpreter.state.resources "ExtGState"
        (Text.encodeUtf8 name)).map surroundings.store.resolveAt).bind fun object =>
          object.as? Object.dictionary? := by
    unfold ObjectStore.resource?
    cases surroundings.store.dictionaryAt? interpreter.state.resources "ExtGState" <;> rfl
  unfold selectState stateFont? selectEntryState
  rw [← entry]
  dsimp only
  cases (surroundings.store.dictionaryAt? interpreter.state.resources "ExtGState").bind
      fun states => surroundings.store.dictionaryAt? states name with
  | none => rfl
  | some state =>
      dsimp only
      cases surroundings.store.arrayAt? state "Font" with
      | none => rfl
      | some items =>
          match items with
          | ⟨[], _⟩ => rfl
          | ⟨[_], _⟩ => rfl
          | ⟨_ :: _ :: _ :: _, _⟩ => rfl
          | ⟨[font, size], _⟩ =>
              dsimp only
              cases ((surroundings.store.resolve size).number? : Option K) <;> rfl

theorem handle_single {operator : Operator} {command : Command K} {stack : List (Operand K)}
    (read : operator.read stack = .ok [⟨operator, command⟩]) (interpreter : Interpreter K) :
    surroundings.handle operator stack interpreter =
      (surroundings.execute command interpreter).mapFault (CommandFault.toFailure operator) := by
  simp only [handle, read, executeAll]
  cases surroundings.execute command interpreter with
  | mk result behind => cases result <;> rfl

end Surroundings

/-- Under a name, an operator finds what the resources hold under a key, in every state. -/
inductive FindsKey (K : Type) [Scalar K] (name : String) (key : List UInt8) : Operator → Prop where
  | font : (∀ (surroundings : Surroundings K) (size : Operand K) (number : K)
      (stack : List (Operand K)) (interpreter : Interpreter K), size.number? = some number →
        surroundings.handle .font (size :: .name name :: stack) interpreter =
          .done (interpreter.selectEntry surroundings.setting name number
            (surroundings.store.resource? interpreter.state.resources "Font" key))) →
      FindsKey K name key .font
  | external : (∀ (surroundings : Surroundings K) (stack : List (Operand K))
      (interpreter : Interpreter K),
        surroundings.handle .external (.name name :: stack) interpreter =
          (surroundings.drawEntry name
            (surroundings.store.resource? interpreter.state.resources "XObject" key)
            interpreter).mapFault (CommandFault.toFailure .external)) →
      FindsKey K name key .external
  | graphicsState : (∀ (surroundings : Surroundings K) (stack : List (Operand K))
      (interpreter : Interpreter K),
        surroundings.handle .graphicsState (.name name :: stack) interpreter =
          (surroundings.selectEntryState name
            (surroundings.store.resource? interpreter.state.resources "ExtGState" key)
            interpreter).mapFault (CommandFault.toFailure .graphicsState)) →
      FindsKey K name key .graphicsState

namespace FindsKey

variable (name : String)

theorem font_encodeUtf8 : FindsKey K name (Text.encodeUtf8 name) .font := by
  constructor
  intro surroundings size number stack interpreter numeric
  have read : Operator.font.read (size :: .name name :: stack) =
      .ok [⟨.font, .font name number⟩] := by
    simp only [Operator.read, Operands.one, Operands.numberOf, numeric, Operands.expect]
    rfl
  rw [surroundings.handle_single read]
  exact congrArg Outcome.done (interpreter.selectNamedFont_eq surroundings.setting name number)

theorem external_encodeUtf8 : FindsKey K name (Text.encodeUtf8 name) .external := by
  constructor
  intro surroundings stack interpreter
  rw [surroundings.handle_single rfl, ← surroundings.drawExternal_eq]
  rfl

theorem graphicsState_encodeUtf8 : FindsKey K name (Text.encodeUtf8 name) .graphicsState := by
  constructor
  intro surroundings stack interpreter
  rw [surroundings.handle_single rfl, ← surroundings.selectState_eq]
  rfl

end FindsKey

/-! ### Keys that are not found -/

section one

variable (category : String) (object : Object) {key other : List UInt8}

def Interpreter.holding (key : List UInt8) : Interpreter K :=
  start.modify fun state =>
    { state with resources :=
        ⟨[(Text.encodeUtf8 category, .dictionary [(key, object)])], .object ⟨1, 0⟩⟩ }

def Surroundings.bare : Surroundings K := ⟨⟨⟨[], []⟩, {}⟩, fun _ interpreter => interpreter⟩

theorem resource_holding : (Surroundings.bare (K := K)).store.resource?
    (Interpreter.holding (K := K) category object key).state.resources category other =
      if key = other then
        some ⟨object, .entry (.entry (.object ⟨1, 0⟩) (Text.encodeUtf8 category)) other⟩
      else none := by
  have found : (Surroundings.bare (K := K)).store.dictionaryAt?
      (Interpreter.holding (K := K) category object key).state.resources category =
        some ⟨[(key, object)], .entry (.object ⟨1, 0⟩) (Text.encodeUtf8 category)⟩ := by
    simp [ObjectStore.dictionaryAt?, ObjectStore.findAt?, Located.find?, Located.get?,
      Interpreter.holding, Interpreter.modify, Dictionary.get?, ObjectStore.resolveAt, Located.as?,
      Object.dictionary?]
  rw [ObjectStore.resource?, found, Option.bind_some]
  simp only [Located.get?, Dictionary.get?]
  split <;> rfl

end one

variable {name : String} {key : List UInt8}

/-- The operators that look for keys tell an empty entry from none. -/
theorem FindsKey.eq_encodeUtf8 {operator : Operator} (finds : FindsKey K name key operator) :
    key = Text.encodeUtf8 name := by
  by_contra other
  cases finds with
  | font finds =>
      let interpreter : Interpreter K := .holding "Font" (.dictionary []) key
      have found := finds .bare (.integer 0) _ [] interpreter rfl
      cases font_encodeUtf8 (K := K) name with
      | font selects =>
          rw [selects .bare (.integer 0) _ [] interpreter rfl, resource_holding, resource_holding,
            if_pos rfl, if_neg other] at found
          have selected := congrArg
            (fun outcome => outcome.interpreter.state.current.text.typeface?.isSome) found
          cases selected
  | external finds =>
      let interpreter : Interpreter K := .holding "XObject" (.stream [] []) key
      have found := finds .bare [] interpreter
      cases external_encodeUtf8 (K := K) name with
      | external draws =>
          rw [draws .bare [] interpreter, resource_holding, resource_holding, if_pos rfl,
            if_neg other] at found
          cases congrArg Outcome.result found
  | graphicsState finds =>
      let interpreter : Interpreter K := .holding "ExtGState" (.dictionary []) key
      have found := finds .bare [] interpreter
      cases graphicsState_encodeUtf8 (K := K) name with
      | graphicsState selects =>
          rw [selects .bare [] interpreter, resource_holding, resource_holding, if_pos rfl,
            if_neg other] at found
          cases congrArg Outcome.result found

theorem findsKey_iff {operator : Operator}
    (looks : operator ∈ [.font, .external, .graphicsState]) :
    FindsKey K name key operator ↔ key = Text.encodeUtf8 name := by
  constructor
  · exact FindsKey.eq_encodeUtf8
  · rintro rfl
    simp only [List.mem_cons, List.not_mem_nil, or_false] at looks
    rcases looks with rfl | rfl | rfl
    · exact .font_encodeUtf8 name
    · exact .external_encodeUtf8 name
    · exact .graphicsState_encodeUtf8 name

/-- A key that is written in a stream is found by each operator that looks for it if, and only if, it
is the UTF-8 of some text. For any key they find what is stored under the UTF-8 of its text, where
U+FFFD stands for what is no text, and nothing that is stored under other keys. -/
theorem written_key_is_found_iff_utf8 (digits : Content.HexDigits) (key : List UInt8) :
    let name := Text.decodeUtf8 key
    (∀ (lexer : Content.Lexer) (rest : List UInt8), lexer.Idle → lexer.failed = false →
        lexer.left = digits.key key ++ 0x20 :: rest →
        (lexer.next K).1 = some (.ok (.operand (.name name))) ∧
          (lexer.next K).2.left = 0x20 :: rest) ∧
      ∀ operator ∈ [Operator.font, .external, .graphicsState],
        (∀ other, FindsKey K name other operator ↔ other = Text.encodeUtf8 name) ∧
        (FindsKey K name key operator ↔ ∃ text, key = Text.encodeUtf8 text) := by
  intro name
  refine ⟨Content.Lexer.next_key digits key, fun operator looks => ⟨fun _ => findsKey_iff looks, ?_⟩⟩
  rw [findsKey_iff looks]
  constructor
  · intro utf8
    exact ⟨name, utf8⟩
  · rintro ⟨text, rfl⟩
    exact congrArg Text.encodeUtf8 (Text.decodeUtf8_encodeUtf8 text).symm

example : Text.encodeUtf8 (Text.decodeUtf8 [0xFF]) = [0xEF, 0xBF, 0xBD] := by decide +kernel

end PdfElements
