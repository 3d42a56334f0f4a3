import PdfElements.Proofs.Interpretation.Alike
import PdfElements.Proofs.Interpretation.Invariants
import PdfElements.Proofs.Interpretation.Showing

/-! Where shapes and figures come from: from paths that are painted, and from images outside of
glyph procedures. All that runs within a glyph procedure runs as part of the glyph, however deep it
is nested, so that images are passed over there. -/

set_option autoImplicit false

namespace PdfElements

variable {K : Type}

/-- The events that an interpreter has beyond those of an earlier one have a property. -/
def Interpreter.AddsOnly (property : Event K → Prop) (before after : Interpreter K) : Prop :=
  ∃ added, after.events.toList = before.events.toList ++ added ∧ ∀ event ∈ added, property event

namespace Interpreter

theorem send_inj {interpreter : Interpreter K} {first second : Event K}
    (same : interpreter.send first = interpreter.send second) : first = second :=
  (Array.push_eq_push.mp (congrArg Interpreter.events same)).1

namespace AddsOnly

variable {property : Event K → Prop} {before interpreter : Interpreter K}

theorem refl (interpreter : Interpreter K) : AddsOnly property interpreter interpreter :=
  ⟨[], (List.append_nil _).symm, List.forall_mem_nil _⟩

theorem send (adds : AddsOnly property before interpreter) {event : Event K}
    (has : property event) : AddsOnly property before (interpreter.send event) := by
  obtain ⟨added, events, all⟩ := adds
  refine ⟨added ++ [event], ?_, List.forall_mem_append.mpr ⟨all, List.forall_mem_singleton.mpr has⟩⟩
  rw [Interpreter.send, Array.toList_push, events, List.append_assoc]

theorem warn (adds : AddsOnly property before interpreter)
    (warnings : ∀ warning, property (.warning warning)) (setting : Setting) (warning : Warning) :
    AddsOnly property before (interpreter.warn setting warning) := by
  unfold Interpreter.warn
  split
  · exact adds.send (warnings _)
  · exact adds

variable [Scalar K]

theorem selectFont (adds : AddsOnly property before interpreter)
    (warnings : ∀ warning, property (.warning warning)) (setting : Setting) (name : String)
    (size : K) (object : Located Object) :
    AddsOnly property before (interpreter.selectFont setting name size object) := by
  unfold Interpreter.selectFont
  split
  · exact adds
  · exact adds.warn warnings setting _

theorem sendShapes (adds : AddsOnly property before interpreter) (setting : Setting)
    (bounds : Rect K) (color : Paint → Color) (paints : List Paint)
    (shapes : ∀ paint, property (.shape ⟨interpreter.state.page,
      bounds.rounded setting.options.places?, color paint⟩)) :
    AddsOnly property before (paints.foldl
      (fun interpreter paint => interpreter.sendShape setting bounds (color paint))
      interpreter) := by
  induction paints generalizing interpreter with
  | nil => exact adds
  | cons paint rest ih => exact ih (adds.send (shapes paint)) shapes

end AddsOnly

variable [Scalar K]

/-- The shape that painting the path of an interpreter reports: the bounds of the path, in the
color of one way to paint. -/
def Outlines (setting : Setting) (interpreter : Interpreter K) (area : Shape K) : Prop :=
  ∃ bounds paint, interpreter.state.path.bounds? = some bounds ∧
    area = ⟨interpreter.state.page, bounds.rounded setting.options.places?,
      (interpreter.state.current.ink paint).color⟩

def Pictures (setting : Setting) (interpreter : Interpreter K) (event : Event K) : Prop :=
  ∃ image, interpreter.paintImage setting image = interpreter.send event

theorem pictures_paintImage (setting : Setting) (image : Stream) (interpreter : Interpreter K) :
    ∃ event, interpreter.paintImage setting image = interpreter.send event ∧
      interpreter.Pictures setting event := by
  obtain ⟨event, sent⟩ := paintImage_eq setting image interpreter
  exact ⟨event, sent, image, sent⟩

/-- What becomes of an interpreter at an image that is written in the content, or in the
resources. -/
structure TreatsImages (setting : Setting) (interpreter : Interpreter K)
    (becomes : Stream → Interpreter K) : Prop where
  inlined (image : InlineImage K) :
    (Interpretation.surroundings setting).execute (.inlineImage image) interpreter =
      .done (becomes image.toStream)
  external (name : String) (image : Located Stream) :
    (Interpretation.surroundings (K := K) setting).external? interpreter.state.resources name =
        .ok image →
    ((image.value.entries.find? "Subtype").bind Object.name?).map Text.decodeUtf8 = some "Image" →
    (Interpretation.surroundings setting).execute (.external name) interpreter =
      .done (becomes image.value)

theorem passesOver_images (setting : Setting) {interpreter : Interpreter K}
    (inside : interpreter.state.inGlyph = true) :
    interpreter.TreatsImages setting fun _ => interpreter where
  inlined image := by simp only [Surroundings.execute, inside, if_true]
  external name image found subtype := by
    simp [Surroundings.execute, Surroundings.drawExternal, found, subtype, inside]

theorem paints_images (setting : Setting) {interpreter : Interpreter K}
    (outside : interpreter.state.inGlyph = false) :
    interpreter.TreatsImages setting (interpreter.paintImage setting) where
  inlined image := by
    simp only [Surroundings.execute, outside, Bool.false_eq_true, if_false]
    rfl
  external name image found subtype := by
    simp [Surroundings.execute, Surroundings.drawExternal, found, subtype, outside]
    rfl

end Interpreter

namespace Surroundings

variable [Scalar K]

theorem paintPath_addsOnly (surroundings : Surroundings K) (paints : List Paint)
    {property : Event K → Prop} {before interpreter : Interpreter K}
    (adds : before.AddsOnly property interpreter)
    (shapes : ∀ area, interpreter.Outlines surroundings.setting area → property (.shape area)) :
    before.AddsOnly property (surroundings.paintPath paints interpreter) := by
  unfold paintPath
  cases bounds : interpreter.state.path.bounds? with
  | none => exact adds
  | some box =>
      refine Interpreter.AddsOnly.sendShapes ?_ surroundings.setting box _ paints ?_
      · exact adds
      · intro paint
        have inks : ((interpreter.state.current.applyClip (some box)).ink paint) =
            interpreter.state.current.ink paint := by
          unfold GraphicsState.applyClip
          split <;> rfl
        exact shapes _ ⟨box, paint, bounds, by rw [← inks]; rfl⟩

/-- A command that runs no stream reports nothing but warnings, shapes of the path, outside of glyphs,
images, and where it gets stuck at a color space. -/
theorem execute_addsOnly (surroundings : Surroundings K) {command : Command K}
    (plain : command.nests = false) {property : Event K → Prop}
    {before interpreter : Interpreter K} (adds : before.AddsOnly property interpreter)
    (warnings : ∀ warning, property (.warning warning))
    (shapes : ∀ area, interpreter.Outlines surroundings.setting area → property (.shape area))
    (images : interpreter.state.inGlyph = false →
      ∀ event, interpreter.Pictures surroundings.setting event → property event)
    (stuck : ∀ name,
      ColorSpace.readName surroundings.store interpreter.state.resources.value name = none →
        property (.stuck interpreter.state.page)) :
    before.AddsOnly property (surroundings.execute command interpreter).interpreter := by
  have acts := surroundings.acts_execute plain interpreter
  generalize (surroundings.execute command interpreter).interpreter = after at acts
  cases acts with
  | changes => exact adds
  | selects => exact adds.selectFont warnings _ _ _ _
  | selectsNone => exact adds.warn warnings _ _
  | paints paints => exact surroundings.paintPath_addsOnly paints adds shapes
  | pictures image outside =>
      obtain ⟨event, sent, pictured⟩ :=
        Interpreter.pictures_paintImage surroundings.setting image interpreter
      rw [sent]
      exact adds.send (images outside event pictured)
  | getsStuck name endless => exact adds.send (stuck name endless)

end Surroundings

namespace Interpretation

variable [Scalar K]

/-- How an event comes about in a run: shapes and figures are painted somewhere in it, images only
where no glyph is drawn. -/
inductive Origin (setting : Setting) (content : List UInt8) (start : Interpreter K) :
    Event K → Prop where
  | warning (warning : Warning) : Origin setting content start (.warning warning)
  | character (shown : Character K) : Origin setting content start (.character shown)
  | path {around : List NestedStream} {reached : Interpreter K} {area : Shape K} :
      GetsTo setting content start around reached → reached.Outlines setting area →
      Origin setting content start (.shape area)
  | image {around : List NestedStream} {reached : Interpreter K} {event : Event K} :
      GetsTo setting content start around reached → reached.state.inGlyph = false →
      reached.Pictures setting event → Origin setting content start event
  | stuck {around : List NestedStream} {reached : Interpreter K} {name : String} :
      GetsTo setting content start around reached →
      ColorSpace.readName setting.store reached.state.resources.value name = none →
      Origin setting content start (.stuck reached.state.page)

/-- All that a run reports has an origin in it. -/
theorem run_addsOnly_origins (setting : Setting) (content : List UInt8) (start : Interpreter K) :
    start.AddsOnly (Origin setting content start) (run setting content start) := by
  have invariant : Invariant setting
      (fun interpreter => ∃ around, GetsTo setting content start around interpreter)
      (start.AddsOnly (Origin setting content start)) :=
    { moveTo := fun _ adds => adds
      warn := fun warning adds => adds.warn .warning setting warning
      execute := by
        rintro interpreter command plain ⟨around, getsTo⟩ adds
        exact (surroundings setting).execute_addsOnly plain adds .warning
          (fun _ outlines => .path getsTo outlines)
          (fun outside _ pictured => .image getsTo outside pictured)
          (fun _ endless => .stuck getsTo endless)
      paintImage := by
        rintro interpreter image outside ⟨around, getsTo⟩ adds
        obtain ⟨event, sent, pictured⟩ := interpreter.pictures_paintImage setting image
        rw [sent]
        exact adds.send (.image getsTo outside pictured)
      sendCharacter := fun _ _ _ _ adds => adds.send (.character _)
      movePen := fun _ adds => adds
      enterForm := fun _ _ adds => adds
      enterGlyph := fun _ _ _ _ adds => adds
      leave := fun _ adds => adds }
  exact (invariant.run (fun around _ getsTo => ⟨around, getsTo⟩) (.refl start)).2

theorem GetsTo.inGlyph {setting : Setting} {content : List UInt8} {start reached : Interpreter K}
    {around : List NestedStream} (getsTo : GetsTo setting content start around reached)
    (inside : start.state.inGlyph = true) : reached.state.inGlyph = true := by
  have runs : (surroundings (K := K) setting).nested.Resumes := resumes_run setting
  have invariant : Invariant (K := K) setting (fun _ => True)
      (fun interpreter => interpreter.state.inGlyph = true) :=
    { moveTo := fun _ inside => inside
      warn := fun warning inside =>
        ((Interpreter.keeps_warn setting warning _).inGlyph).trans inside
      execute := fun _ _ inside => (Surroundings.continues_execute runs _ _).inGlyph.trans inside
      paintImage := fun image _ _ inside =>
        (Interpreter.keeps_paintImage setting image _).inGlyph.trans inside
      sendCharacter := fun _ _ _ _ inside => inside
      movePen := fun _ inside => inside
      enterForm := fun _ _ inside => inside
      enterGlyph := fun _ _ _ _ _ => rfl
      leave := fun outside _ => outside }
  exact (invariant.run (fun _ _ _ => trivial) inside).1 around reached getsTo

/-- What a glyph procedure may report: no figure, and no shape but that of a path which is painted
in it or in a stream within it. -/
def PaintedInGlyph (setting : Setting) (run? : Option (NestedRun K)) (event : Event K) : Prop :=
  (∀ figure, event ≠ .figure figure) ∧
    ∀ area, event = .shape area → ∃ run around reached, run? = some run ∧
      GetsTo setting run.content run.start around reached ∧ reached.Outlines setting area

theorem Origin.paintedInGlyph {setting : Setting} {run : NestedRun K} {event : Event K}
    (origin : Origin setting run.content run.start event)
    (inside : run.start.state.inGlyph = true) : PaintedInGlyph setting (some run) event := by
  cases origin with
  | warning | character | stuck => exact ⟨nofun, nofun⟩
  | path getsTo outlines =>
      refine ⟨nofun, ?_⟩
      rintro area ⟨⟩
      exact ⟨run, _, _, rfl, getsTo, outlines⟩
  | image getsTo outside => cases (getsTo.inGlyph inside).symm.trans outside

theorem inGlyph_of_glyphRun? {surroundings : Surroundings K} {glyphs : GlyphProcedures K}
    {code : Nat} {rendering : Matrix K} {interpreter : Interpreter K} {run : NestedRun K}
    (begins : surroundings.glyphRun? glyphs code rendering interpreter = some run) :
    run.start.state.inGlyph = true := by
  obtain ⟨procedure, start⟩ := Surroundings.start_of_glyphRun? begins
  rw [start]
  rfl

/-- While a glyph procedure runs, in its own stream and in all forms and glyph procedures within it,
images are passed over, so that it reports no figure and no shape of an image. Behind it images are
treated as they were before it. -/
theorem glyph_procedures_pass_over_images (setting : Setting) (glyphs : GlyphProcedures K)
    (code : Nat) (rendering : Matrix K) (interpreter : Interpreter K) :
    let run? := (surroundings setting).glyphRun? glyphs code rendering interpreter
    let drawn := ((surroundings setting).drawGlyph glyphs code rendering interpreter).interpreter
    (∀ run, run? = some run → ∀ around reached,
      GetsTo setting run.content run.start around reached →
        reached.state.inGlyph = true ∧ reached.TreatsImages setting fun _ => reached) ∧
    interpreter.AddsOnly (PaintedInGlyph setting run?) drawn ∧
    drawn.state.inGlyph = interpreter.state.inGlyph ∧
    (interpreter.state.inGlyph = false →
      drawn.TreatsImages setting (drawn.paintImage setting)) := by
  intro run? drawn
  have runs : (surroundings (K := K) setting).nested.Resumes := resumes_run setting
  have restored : drawn.state = interpreter.state :=
    (Surroundings.resumes_drawGlyph runs glyphs code rendering interpreter).2
  have sameKind : drawn.state.inGlyph = interpreter.state.inGlyph := by rw [restored]
  -- The flag that was set for the procedure goes with its state, and the one before it is back.
  refine ⟨?_, ?_, sameKind,
    fun outside => Interpreter.paints_images setting (sameKind.trans outside)⟩
  · intro run begins around reached getsTo
    have inside := getsTo.inGlyph (inGlyph_of_glyphRun? begins)
    exact ⟨inside, Interpreter.passesOver_images setting inside⟩
  · rcases (surroundings setting).drawGlyph_cases glyphs code rendering interpreter with
      ⟨run, begins, start, drawing⟩ | ⟨_, idle⟩
    · have begun : run? = some run := begins
      obtain ⟨added, events, origins⟩ := run_addsOnly_origins setting run.content run.start
      refine ⟨added, ?_, fun event member => ?_⟩
      · rw [← start, ← events]
        exact congrArg (·.interpreter.events.toList) drawing
      · rw [begun]
        exact (origins event member).paintedInGlyph (inGlyph_of_glyphRun? begins)
    · have unchanged : drawn = interpreter := by
        rcases idle with drawing | ⟨fault, drawing⟩ <;> exact congrArg Outcome.interpreter drawing
      exact unchanged.symm ▸ .refl interpreter

end Interpretation

end PdfElements
