import PdfElements.Image.Appearance
import PdfElements.Image.Inline
import PdfElements.Interpretation.Font

/-!
Carrying out instructions. Streams run within streams as forms and as glyph procedures; how a
nested stream runs is a parameter here.
-/

set_option autoImplicit false

namespace PdfElements

/-- How something ended, and the interpreter behind it. What was done before a fault stays done. -/
structure Outcome (Fault K Result : Type) where
  result : Except Fault Result
  interpreter : Interpreter K

namespace Outcome

variable {Fault K Result : Type}

def done (interpreter : Interpreter K) : Outcome Fault K Unit := ⟨.ok (), interpreter⟩

def failed (fault : Fault) (interpreter : Interpreter K) : Outcome Fault K Result :=
  ⟨.error fault, interpreter⟩

@[simp] theorem result_done (interpreter : Interpreter K) :
    (done interpreter : Outcome Fault K Unit).result = .ok () := rfl

@[simp] theorem interpreter_done (interpreter : Interpreter K) :
    (done interpreter : Outcome Fault K Unit).interpreter = interpreter := rfl

@[simp] theorem result_failed (fault : Fault) (interpreter : Interpreter K) :
    (failed fault interpreter : Outcome Fault K Result).result = .error fault := rfl

@[simp] theorem interpreter_failed (fault : Fault) (interpreter : Interpreter K) :
    (failed fault interpreter : Outcome Fault K Result).interpreter = interpreter := rfl

def mapFault {Other : Type} (change : Fault → Other) (outcome : Outcome Fault K Result) :
    Outcome Other K Result :=
  ⟨outcome.result.mapError change, outcome.interpreter⟩

@[simp] theorem result_mapFault {Other : Type} (change : Fault → Other)
    (outcome : Outcome Fault K Result) :
    (outcome.mapFault change).result = outcome.result.mapError change := rfl

@[simp] theorem interpreter_mapFault {Other : Type} (change : Fault → Other)
    (outcome : Outcome Fault K Result) :
    (outcome.mapFault change).interpreter = outcome.interpreter := rfl

end Outcome

/-- Reports a shape when all pixels of an image have one color, else a figure, unless the color
space of the image is read without end. -/
def Interpreter.paintImage {K : Type} [Scalar K] (setting : Setting) (image : Stream)
    (interpreter : Interpreter K) : Interpreter K :=
  let state := interpreter.state
  let box := (ImageMetadata.read setting.store image.entries).bounds state.current.matrix
  match Appearance.ofImage setting.store state.resources.value image state.current.filling.color with
  | some (.uniform color) => interpreter.sendShape setting box color
  | some _ => interpreter.sendFigure setting box
  | none => interpreter.getStuck

abbrev Runner (K : Type) := List UInt8 → Interpreter K → Interpreter K

/-- What instructions are carried out with: the setting of the run, and how nested streams run. -/
structure Surroundings (K : Type) where
  setting : Setting
  nested : Runner K

namespace Surroundings

variable {K : Type}

def store (surroundings : Surroundings K) : ObjectStore := surroundings.setting.store

def allow (surroundings : Surroundings K) (what : NestedStream) (depth : Nat) :
    Except NestedFault Unit :=
  let limit := surroundings.setting.options.depthLimit
  if limit ≤ depth then .error (.tooDeep what limit) else .ok ()

def report (surroundings : Surroundings K) (failure : Failure) (interpreter : Interpreter K) :
    Interpreter K :=
  interpreter.warn surroundings.setting
    { code := failure.operatorCode, description := failure.message }

def formContent (surroundings : Surroundings K) (form : Stream) (depth : Nat) :
    Except NestedFault (List UInt8) := do
  surroundings.allow .form depth
  form.decode.mapError .stream

def glyphContent (surroundings : Surroundings K) (id : ObjectId) (depth : Nat) :
    Except NestedFault (Located Stream × List UInt8) := do
  surroundings.allow .glyph depth
  let object ← (surroundings.store.objectAt id).mapError .object
  let procedure ← object.value.asStream.mapError .object
  let content ← procedure.decode.mapError .stream
  return (⟨procedure, object.place⟩, content)

variable [Scalar K]

def formMatrix? (store : ObjectStore) (form : Dictionary) : Option (Matrix K) := do
  Matrix.ofList? (← (← store.array? form "Matrix").mapM store.numberOf?)

def formState (surroundings : Surroundings K) (form : Located Stream) (state : StreamState K) :
    StreamState K :=
  let resources := (surroundings.store.dictionaryAt? form.entries "Resources").getD
    state.pageResources
  let matrix := (formMatrix? surroundings.store form.value.entries).getD .identity
  let inner := (state.enter resources).modify fun graphics => graphics.concat matrix
  { inner with initialMatrix := inner.current.matrix }

def drawForm (surroundings : Surroundings K) (form : Located Stream) (interpreter : Interpreter K) :
    Outcome NestedFault K Unit :=
  match surroundings.formContent form.value interpreter.state.depth with
  | .error fault => .failed fault interpreter
  | .ok content =>
    let inner := surroundings.nested content (interpreter.modify (surroundings.formState form))
    .done (inner.modify fun state => state.leave interpreter.state.outer)

/-- The state that a glyph procedure begins with. `rendering` maps the space of the font to device
space. -/
def glyphState (surroundings : Surroundings K) (glyphs : GlyphProcedures K)
    (procedure : Located Stream) (rendering : Matrix K) (state : StreamState K) : StreamState K :=
  let store := surroundings.store
  let own? := store.dictionaryAt? procedure.entries "Resources"
  let fonts? := glyphs.resources?.bind fun location => location.dictionary? store
  let matrix := glyphs.matrix.concat rendering
  let inner := state.enter ((own?.or fonts?).getD state.resources)
  { inner.modify fun graphics => { graphics with matrix } with
    initialMatrix := matrix
    text? := some .initial
    inGlyph := true }

/-- Runs the procedure of a glyph, if it has one, and yields the box that it declares. -/
def drawGlyph (surroundings : Surroundings K) (glyphs : GlyphProcedures K) (code : Nat)
    (rendering : Matrix K) (interpreter : Interpreter K) :
    Outcome NestedFault K (Option (Rect K)) :=
  match glyphs.procedure? code with
  | none => ⟨.ok none, interpreter⟩
  | some id =>
    match surroundings.glyphContent id interpreter.state.depth with
    | .error fault => .failed fault interpreter
    | .ok (procedure, content) =>
      let inner := surroundings.nested content
        (interpreter.modify (surroundings.glyphState glyphs procedure rendering))
      ⟨.ok inner.state.glyphBox?, inner.modify fun state => state.leave interpreter.state.outer⟩

/-- The box that a glyph declares, and the interpreter behind its procedure. A failure is
reported. -/
def drawGlyphOrReport (surroundings : Surroundings K) (typeface : Typeface K) (code : Nat)
    (rendering : Matrix K) (interpreter : Interpreter K) : Option (Rect K) × Interpreter K :=
  match typeface.glyphs? with
  | none => (none, interpreter)
  | some glyphs =>
    let outcome := surroundings.drawGlyph glyphs code rendering interpreter
    match outcome.result with
    | .ok declared? => (declared?, outcome.interpreter)
    | .error fault => (none, surroundings.report fault.toFailure outcome.interpreter)

def showGlyph (surroundings : Surroundings K) (parameters : TextParameters K)
    (typeface : Typeface K) (interpreter : Interpreter K) (glyph : Glyph K) : Interpreter K :=
  match interpreter.state.text? with
  | none => interpreter
  | some matrices =>
    let rendering := (parameters.fontMatrix.concat matrices.text).concat
      interpreter.state.current.matrix
    let drawn := surroundings.drawGlyphOrReport typeface glyph.code rendering interpreter
    let box := drawn.1.getD
      (Rect.image rendering (Scalar.ofInt 0) typeface.descent glyph.width typeface.ascent)
    let size := parameters.fontSize * Scalar.magnitude matrices.text.horizontalScale
    (drawn.2.sendCharacter surroundings.setting glyph.text box typeface.font size).modify
      fun state =>
        { state with text? := state.text?.map fun matrices =>
            matrices.advance (parameters.advance glyph) }

def showString (surroundings : Surroundings K) (bytes : List UInt8) (interpreter : Interpreter K) :
    Outcome (CommandFault K) K Unit :=
  let parameters := interpreter.state.current.text
  match interpreter.state.text?, parameters.typeface?, parameters.fontName? with
  | none, _, _ => .failed .shownOutsideText interpreter
  | some _, none, some name => .failed (.unusableFont name) interpreter
  | some _, none, none => .failed .noFont interpreter
  | some _, some typeface, _ =>
    .done ((typeface.decode bytes).foldl (surroundings.showGlyph parameters typeface) interpreter)

def moveText (fault : CommandFault K) (change : TextMatrices K → TextMatrices K)
    (interpreter : Interpreter K) : Outcome (CommandFault K) K Unit :=
  match interpreter.state.text? with
  | none => .failed fault interpreter
  | some matrices =>
    .done (interpreter.modify fun state => { state with text? := some (change matrices) })

/-- Ends the path: clips if that is pending, and reports a shape for each way in which the path is
painted. -/
def paintPath (surroundings : Surroundings K) (paints : List Paint) (interpreter : Interpreter K) :
    Interpreter K :=
  let bounds? := interpreter.state.path.bounds?
  let interpreter := interpreter.modify fun state =>
    { state.modify fun graphics => graphics.applyClip bounds? with path := .empty }
  match bounds? with
  | none => interpreter
  | some bounds =>
    let graphics := interpreter.state.current
    paints.foldl
      (fun interpreter paint =>
        interpreter.sendShape surroundings.setting bounds (graphics.ink paint).color)
      interpreter

def external? (surroundings : Surroundings K) (resources : Located Dictionary) (name : String) :
    Except (CommandFault K) (Located Stream) := do
  let store := surroundings.store
  let objects? := store.dictionaryAt? resources "XObject"
  let some object := objects?.bind fun objects => objects.find? name
    | .error (.unknownExternal name)
  let some stream := (store.resolveAt object).as? Object.stream?
    | .error (.externalNotStream name)
  return stream

/-- Draws what the resources hold under a name: a form, or an image outside of glyphs. -/
def drawExternal (surroundings : Surroundings K) (name : String) (interpreter : Interpreter K) :
    Outcome (CommandFault K) K Unit :=
  match surroundings.external? interpreter.state.resources name with
  | .error fault => .failed fault interpreter
  | .ok stream =>
    let subtype := ((stream.value.entries.find? "Subtype").bind Object.name?).map Text.decodeUtf8
    if subtype = some "Form" then (surroundings.drawForm stream interpreter).mapFault .nested
    else if subtype = some "Image" && !interpreter.state.inGlyph then
      .done (interpreter.paintImage surroundings.setting stream.value)
    else .done interpreter

/-- The font, and its size, that a named set of parameters holds, if it holds one. -/
def stateFont? (surroundings : Surroundings K) (resources : Located Dictionary) (name : String) :
    Except (CommandFault K) (Option (Located Object × K)) := do
  let store := surroundings.store
  let states? := store.dictionaryAt? resources "ExtGState"
  let some state := states?.bind fun states => store.dictionaryAt? states name
    | .error (.unknownState name)
  match store.arrayAt? state "Font" with
  | none => return none
  | some ⟨[font, size], place⟩ =>
    let object := store.resolve size
    let some size := (object.number? : Option K) | .error (.stateFontSize object)
    return some (⟨font, .item place 0⟩, size)
  | some _ => .error .stateFont

def selectState (surroundings : Surroundings K) (name : String) (interpreter : Interpreter K) :
    Outcome (CommandFault K) K Unit :=
  match surroundings.stateFont? interpreter.state.resources name with
  | .error fault => .failed fault interpreter
  | .ok none => .done interpreter
  | .ok (some (font, size)) =>
    .done (interpreter.selectFont surroundings.setting font.value.fontName size font)

def changeInk (role : ColorRole) (change : Ink → Ink) (interpreter : Interpreter K) :
    Interpreter K :=
  interpreter.modify fun state => state.modify fun graphics =>
    match role with
    | .stroking => { graphics with stroking := change graphics.stroking }
    | .filling => { graphics with filling := change graphics.filling }

def execute (surroundings : Surroundings K) (command : Command K) (interpreter : Interpreter K) :
    Outcome (CommandFault K) K Unit :=
  let setting := surroundings.setting
  let onStack (change : GraphicsStack K → GraphicsStack K) : Outcome (CommandFault K) K Unit :=
    .done (interpreter.modify fun state => { state with graphics := change state.graphics })
  let onGraphics (change : GraphicsState K → GraphicsState K) : Outcome (CommandFault K) K Unit :=
    .done (interpreter.modify fun state => state.modify change)
  let onPath (change : Path K → Matrix K → Path K) : Outcome (CommandFault K) K Unit :=
    .done (interpreter.modify fun state =>
      { state with path := change state.path state.current.matrix })
  let onText (change : TextParameters K → TextParameters K) : Outcome (CommandFault K) K Unit :=
    .done (interpreter.modify fun state => state.modifyText change)
  match command with
  | .save => onStack .save
  | .restore => onStack .restore
  | .concat matrix => onGraphics fun graphics => graphics.concat matrix
  | .graphicsState name => surroundings.selectState name interpreter
  | .move target => onPath fun path matrix => path.move matrix target
  | .line target => onPath fun path matrix => path.line matrix target
  | .curve control₁ control₂ target =>
    onPath fun path matrix => path.curve matrix control₁ control₂ target
  | .curveFromCurrent control₂ target =>
    onPath fun path matrix => path.curveFromCurrent matrix control₂ target
  | .curveToTarget control₁ target =>
    onPath fun path matrix => path.curveToTarget matrix control₁ target
  | .closePath => onPath fun path _ => path.close
  | .rectangle corner size =>
    onPath fun path matrix => path.rectangle matrix corner.x corner.y size.x size.y
  | .paint paints => .done (surroundings.paintPath paints interpreter)
  | .clip rule => onGraphics fun graphics => { graphics with pendingClip? := some rule }
  | .beginText => .done (interpreter.modify fun state => { state with text? := some .initial })
  | .endText => .done (interpreter.modify fun state => { state with text? := none })
  | .characterSpacing value => onText fun text => { text with characterSpacing := value }
  | .wordSpacing value => onText fun text => { text with wordSpacing := value }
  | .horizontalScaling value => onText fun text => { text with horizontalScaling := value }
  | .leading value => onText fun text => { text with leading := value }
  | .rise value => onText fun text => { text with rise := value }
  | .textMode _ => .done interpreter
  | .font name size => .done (interpreter.selectNamedFont setting name size)
  | .moveText distance =>
    moveText .movedOutsideText (fun matrices => matrices.moveLine distance.x distance.y) interpreter
  | .textMatrix matrix => moveText .movedOutsideText (fun _ => .ofMatrix matrix) interpreter
  | .nextLine =>
    let leading := interpreter.state.current.text.leading
    moveText .movedOutsideText (fun matrices => matrices.nextLine leading) interpreter
  | .show bytes => surroundings.showString bytes interpreter
  | .adjust amount =>
    let distance := interpreter.state.current.text.adjustment amount
    moveText .shownOutsideText (fun matrices => matrices.advance distance) interpreter
  | .glyphWidth => .done interpreter
  | .glyphBox first second =>
    if interpreter.state.inGlyph then
      let box := Rect.image interpreter.state.initialMatrix first.x first.y second.x second.y
      .done (interpreter.modify fun state => { state with glyphBox? := some box })
    else .done interpreter
  | .selectSpace role name =>
    match ColorSpace.readName setting.store interpreter.state.resources.value name with
    | some (some space) => .done (changeInk role (fun _ => .ofSpace space) interpreter)
    | some none => .failed (.unknownSpace name) interpreter
    | none => .done interpreter.getStuck
  | .deviceSpace role space => .done (changeInk role (fun _ => .ofSpace space) interpreter)
  | .components role values =>
    .done (changeInk role (fun ink => ink.withComponents values) interpreter)
  | .external name => surroundings.drawExternal name interpreter
  | .inlineImage image =>
    if interpreter.state.inGlyph then .done interpreter
    else .done (interpreter.paintImage setting image.toStream)

def executeAll (surroundings : Surroundings K) :
    List (Instruction K) → Interpreter K → Outcome Failure K Unit
  | [], interpreter => .done interpreter
  | instruction :: rest, interpreter =>
    let outcome := surroundings.execute instruction.command interpreter
    match outcome.result with
    | .ok () => surroundings.executeAll rest outcome.interpreter
    | .error fault => .failed (fault.toFailure instruction.operator) outcome.interpreter

def handle (surroundings : Surroundings K) (operator : Operator) (operands : List (Operand K))
    (interpreter : Interpreter K) : Outcome Failure K Unit :=
  match operator.read operands with
  | .error fault => .failed ((CommandFault.operands fault).toFailure operator) interpreter
  | .ok instructions => surroundings.executeAll instructions interpreter

/-- Carries out the operator with a name, if it is known, at a place in its stream. A failure is
reported. -/
def dispatch (surroundings : Surroundings K) (name : String) (operands : List (Operand K))
    (index : Nat) (interpreter : Interpreter K) : Interpreter K :=
  match Operator.ofName? name with
  | none => interpreter
  | some operator =>
    let outcome := surroundings.handle operator operands
      (interpreter.moveTo ⟨some operator, index⟩)
    match outcome.result with
    | .ok () => outcome.interpreter
    | .error failure => surroundings.report failure outcome.interpreter

end Surroundings

end PdfElements
