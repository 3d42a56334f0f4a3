import PdfElements.Proofs.ColorSpace.Reading
import PdfElements.Proofs.Extraction.Trace
import PdfElements.Proofs.Interpretation.Levels

/-! Streams within streams, also where they refer to each other. The depth counts the streams
around what runs, the limit refuses what would be deeper, and so every run ends. -/

set_option autoImplicit false

namespace PdfElements

variable {K : Type} [Scalar K]

def NestedStream.refusal (what : NestedStream) (limit : Nat) : Warning :=
  { code := .resourceLimitReached
    description := (NestedFault.tooDeep what limit).toFailure.message }

namespace Surroundings

variable {surroundings : Surroundings K} {interpreter : Interpreter K}

theorem drawForm_tooDeep_iff (form : Located Stream) :
    (∃ what limit, (surroundings.drawForm form interpreter).result =
        .error (.tooDeep what limit)) ↔
      surroundings.setting.options.depthLimit ≤ interpreter.state.depth := by
  constructor
  · rintro ⟨what, limit, refused⟩
    by_contra within
    have allowed : surroundings.allow .form interpreter.state.depth = .ok () :=
      allow_within (Nat.lt_of_not_le within) .form
    unfold drawForm formContent at refused
    rw [allowed] at refused
    cases decoded : form.value.decode <;> rw [decoded] at refused <;> cases refused
  · intro refused
    refine ⟨.form, surroundings.setting.options.depthLimit, ?_⟩
    unfold drawForm
    rw [formContent_tooDeep refused]
    rfl

theorem drawGlyph_tooDeep_iff {glyphs : GlyphProcedures K} {code : Nat}
    (drawn : (glyphs.procedure? code).isSome) (rendering : Matrix K) :
    (∃ what limit, (surroundings.drawGlyph glyphs code rendering interpreter).result =
        .error (.tooDeep what limit)) ↔
      surroundings.setting.options.depthLimit ≤ interpreter.state.depth := by
  obtain ⟨id, procedure⟩ := Option.isSome_iff_exists.mp drawn
  simp only [drawGlyph, procedure]
  constructor
  · rintro ⟨what, limit, refused⟩
    by_contra within
    have allowed : surroundings.allow .glyph interpreter.state.depth = .ok () :=
      allow_within (Nat.lt_of_not_le within) .glyph
    unfold glyphContent at refused
    rw [allowed] at refused
    cases found : surroundings.store.objectAt id with
    | error fault => rw [found] at refused; cases refused
    | ok object =>
        rw [found] at refused
        cases streamed : object.value.asStream with
        | error fault =>
            simp [Except.mapError, bind, Except.bind, streamed] at refused
        | ok stream =>
            cases decoded : stream.decode <;>
              simp [Except.mapError, bind, Except.bind, streamed, decoded, pure, Except.pure]
                at refused
  · intro refused
    refine ⟨.glyph, surroundings.setting.options.depthLimit, ?_⟩
    rw [glyphContent_tooDeep refused]
    rfl

theorem dispatch_of_failed {name : String} {operator : Operator} {operands : List (Operand K)}
    {index : Nat} {failure : Failure} {reached : Interpreter K}
    (known : Operator.ofName? name = some operator)
    (failed : surroundings.handle operator operands (interpreter.moveTo ⟨some operator, index⟩) =
      .failed failure reached) :
    surroundings.dispatch name operands index interpreter =
      surroundings.report failure reached := by
  unfold dispatch
  rw [known]
  dsimp only
  rw [failed]
  rfl

end Surroundings

namespace Interpretation

/-- How the limit on nesting is kept where an interpreter is: a form or a glyph procedure is
refused exactly at the limit, and then a report is all that comes of it. -/
structure KeepsLimit (setting : Setting) (interpreter : Interpreter K) : Prop where
  form (form : Located Stream) :
    (∃ what limit, ((surroundings setting).drawForm form interpreter).result =
        .error (.tooDeep what limit)) ↔
      interpreter.state.depth = setting.options.depthLimit
  glyph (glyphs : GlyphProcedures K) (code : Nat) (rendering : Matrix K) :
    (glyphs.procedure? code).isSome →
    ((∃ what limit, ((surroundings setting).drawGlyph glyphs code rendering interpreter).result =
        .error (.tooDeep what limit)) ↔
      interpreter.state.depth = setting.options.depthLimit)
  formReport (name : String) (form : Located Stream) (operands : List (Operand K)) (index : Nat) :
    interpreter.state.depth = setting.options.depthLimit →
    (surroundings (K := K) setting).external? interpreter.state.resources name = .ok form →
    ((form.value.entries.find? "Subtype").bind Object.name?).map Text.decodeUtf8 = some "Form" →
    (surroundings setting).dispatch "Do" (.name name :: operands) index interpreter =
      (interpreter.moveTo ⟨some .external, index⟩).warn setting
        (NestedStream.form.refusal setting.options.depthLimit)
  glyphReport (typeface : Typeface K) (glyphs : GlyphProcedures K) (code : Nat)
      (rendering : Matrix K) :
    interpreter.state.depth = setting.options.depthLimit →
    typeface.glyphs? = some glyphs → (glyphs.procedure? code).isSome →
    (surroundings setting).drawGlyphOrReport typeface code rendering interpreter =
      (none, interpreter.warn setting (NestedStream.glyph.refusal setting.options.depthLimit))

private theorem dispatch_refused {setting : Setting} {interpreter : Interpreter K}
    (refused : setting.options.depthLimit ≤ interpreter.state.depth) {name : String}
    {form : Located Stream}
    (found : (surroundings (K := K) setting).external? interpreter.state.resources name = .ok form)
    (subtype : ((form.value.entries.find? "Subtype").bind Object.name?).map Text.decodeUtf8 =
      some "Form") (operands : List (Operand K)) (index : Nat) :
    (surroundings setting).dispatch "Do" (.name name :: operands) index interpreter =
      (interpreter.moveTo ⟨some .external, index⟩).warn setting
        (NestedStream.form.refusal setting.options.depthLimit) := by
  let placed := interpreter.moveTo ⟨some .external, index⟩
  have content : (surroundings (K := K) setting).formContent form.value placed.state.depth =
      .error (.tooDeep .form setting.options.depthLimit) :=
    Surroundings.formContent_tooDeep refused form.value
  have drawn : (surroundings setting).drawExternal name placed =
      .failed (.nested (.tooDeep .form setting.options.depthLimit)) placed := by
    have placedFound : (surroundings (K := K) setting).external? placed.state.resources name =
        .ok form := found
    simp only [Surroundings.drawExternal, placedFound, if_pos subtype, Surroundings.drawForm,
      content]
    rfl
  have known : Operator.ofName? "Do" = some .external := by decide
  have handled : (surroundings setting).handle .external (.name name :: operands) placed =
      .failed (NestedFault.tooDeep .form setting.options.depthLimit).toFailure placed := by
    change (surroundings setting).executeAll [⟨.external, .external name⟩] placed = _
    simp only [Surroundings.executeAll, Surroundings.execute, drawn]
    rfl
  exact Surroundings.dispatch_of_failed known handled

theorem keepsLimit {setting : Setting} {interpreter : Interpreter K}
    (within : interpreter.state.depth ≤ setting.options.depthLimit) :
    KeepsLimit setting interpreter := by
  have exactly : setting.options.depthLimit ≤ interpreter.state.depth ↔
      interpreter.state.depth = setting.options.depthLimit :=
    ⟨fun refused => Nat.le_antisymm within refused, fun same => Nat.le_of_eq same.symm⟩
  constructor
  · intro form
    exact (Surroundings.drawForm_tooDeep_iff form).trans exactly
  · intro glyphs code rendering drawn
    exact (Surroundings.drawGlyph_tooDeep_iff drawn rendering).trans exactly
  · intro name form operands index limit found subtype
    exact dispatch_refused (exactly.mpr limit) found subtype operands index
  · intro typeface glyphs code rendering limit procedures drawn
    obtain ⟨id, procedure⟩ := Option.isSome_iff_exists.mp drawn
    have content : (surroundings (K := K) setting).glyphContent id interpreter.state.depth =
        .error (.tooDeep .glyph setting.options.depthLimit) :=
      Surroundings.glyphContent_tooDeep (exactly.mpr limit) id
    simp only [Surroundings.drawGlyphOrReport, Surroundings.drawGlyph, procedures, procedure,
      content]
    rfl

/-- An interpreter that a run of a stream gets to, with the kinds of the streams that are around
it then, within that stream and the innermost first. -/
inductive GetsTo (setting : Setting) :
    List UInt8 → Interpreter K → List NestedStream → Interpreter K → Prop where
  | here {content : List UInt8} {start reached : Interpreter K} :
      .between reached ∈ moments (surroundings setting) content start →
      GetsTo setting content start [] reached
  | within {content : List UInt8} {start reached : Interpreter K} {run : NestedRun K}
      {around : List NestedStream} :
      .begins run ∈ moments (surroundings setting) content start →
      GetsTo setting run.content run.start around reached →
      GetsTo setting content start (around ++ [run.kind]) reached

theorem GetsTo.depth {setting : Setting} {content : List UInt8} {start reached : Interpreter K}
    {around : List NestedStream} (getsTo : GetsTo setting content start around reached)
    (allowed : start.state.depth ≤ setting.options.depthLimit) :
    reached.state.depth = start.state.depth + around.length ∧
      reached.state.depth ≤ setting.options.depthLimit := by
  have nested : (surroundings (K := K) setting).nested.Resumes := resumes_run setting
  induction getsTo with
  | here member =>
      have level := depth_moments nested _ _ _ member
      exact ⟨level, Nat.le_trans (Nat.le_of_eq level) allowed⟩
  | within member _ ih =>
      obtain ⟨deeper, below⟩ := depth_moments nested _ _ _ member
      obtain ⟨level, limited⟩ := ih (Nat.le_trans (Nat.le_of_eq deeper) below)
      refine ⟨?_, limited⟩
      rw [level, deeper, List.length_append, List.length_singleton]
      omega

/-- Streams within streams end, because each is deeper than the one that it begins in. -/
theorem wellFounded_begins (setting : Setting) :
    WellFounded fun inner outer : NestedRun K =>
      .begins inner ∈ moments (surroundings setting) outer.content outer.start := by
  have nested : (surroundings (K := K) setting).nested.Resumes := resumes_run setting
  refine Subrelation.wf ?_
    (measure fun run : NestedRun K => setting.options.depthLimit - run.start.state.depth).wf
  intro inner outer member
  obtain ⟨deeper, below⟩ := depth_moments nested _ _ _ member
  change setting.options.depthLimit - inner.start.state.depth <
    setting.options.depthLimit - outer.start.state.depth
  have within : outer.start.state.depth < setting.options.depthLimit := below
  omega

/-- There is one way to run streams that runs streams within streams as itself. -/
theorem eq_runWith_iff (setting : Setting) (runner : Runner K) :
    runner = runWith setting runner ↔ runner = run setting := by
  constructor
  · intro recursive
    have same (nested : NestedRun K) :
        run setting nested.content nested.start = runner nested.content nested.start := by
      induction nested using (wellFounded_begins (K := K) setting).induction with
      | h outer ih =>
          rw [run_eq, recursive]
          exact runWith_congr fun inner begins => ih inner begins
    funext content start
    exact (same ⟨.form, content, start⟩).symm
  · rintro rfl
    exact run_eq setting

/-- A run of a stream runs no streams but those that begin in it. -/
theorem run_eq_of_agreeOn {setting : Setting} {content : List UInt8} {start : Interpreter K}
    {other : Runner K}
    (agree : (run setting).AgreeOn (moments (surroundings setting) content start) other) :
    run setting content start = runWith setting other content start := by
  rw [run_eq setting]
  exact runWith_congr agree

/-- Wherever a page's content gets to, the depth is the number of forms and glyph procedures around
it, which keeps to the limit. A run runs the streams that begin in it and no others, so streams
within streams come to an end and the content has one meaning; and color spaces are read to their
end where none is part of itself. -/
theorem nesting_is_counted_and_ends (setting : Setting) (number : Nat) (source : PageSource K)
    (interpreter : Interpreter K) :
    let start := interpreter.startPage number source
    (∀ around reached, GetsTo setting source.content start around reached →
      reached.state.depth = around.length ∧ around.length ≤ setting.options.depthLimit ∧
      KeepsLimit setting reached) ∧
    (WellFounded fun inner outer : NestedRun K =>
      .begins inner ∈ moments (surroundings setting) outer.content outer.start) ∧
    (∀ (content : List UInt8) (start : Interpreter K) (other : Runner K),
      (run setting).AgreeOn (moments (surroundings setting) content start) other →
      run setting content start = runWith setting other content start) ∧
    (∀ runner : Runner K, runner = runWith setting runner ↔ runner = run setting) ∧
    ((∀ held, setting.store.Holds held →
        ¬ Relation.TransGen (ColorSpace.Needs setting.store) held held) →
      ∀ object, (ColorSpace.read setting.store object).isSome) := by
  intro start
  refine ⟨?_, wellFounded_begins setting, fun _ _ _ => run_eq_of_agreeOn,
    eq_runWith_iff setting, ?_⟩
  · intro around reached getsTo
    obtain ⟨level, limited⟩ := getsTo.depth (Nat.zero_le _)
    have counted : reached.state.depth = around.length := level.trans (Nat.zero_add _)
    exact ⟨counted, counted ▸ limited, keepsLimit limited⟩
  · exact ColorSpace.read_isSome_of_acyclic

def selfDrawnForm : Stream :=
  ⟨[(Text.encodeUtf8 "Subtype", .name (Text.encodeUtf8 "Form"))], [0x2F, 0x58, 0x20, 0x44, 0x6F]⟩

/-- A document with the form, where one level of nesting is allowed. -/
def selfDrawnSetting : Setting :=
  ⟨⟨[(⟨1, 0⟩, .stream selfDrawnForm.entries selfDrawnForm.data)], []⟩, { depthLimit := 1 }⟩

def selfDrawnPage : PageSource Float :=
  let forms : Object := .dictionary [(Text.encodeUtf8 "X", .reference ⟨1, 0⟩)]
  { (PageSource.blank : PageSource Float) with
    resources := ⟨[(Text.encodeUtf8 "XObject", forms)], .object ⟨2, 0⟩⟩
    content := selfDrawnForm.data }

private theorem not_needs_selfDrawn {held part : Object}
    (holds : selfDrawnSetting.store.Holds held) :
    ¬ ColorSpace.Needs selfDrawnSetting.store held part := by
  rintro ⟨complete, described⟩
  obtain ⟨entry, listed, inside⟩ := holds
  obtain rfl := List.mem_singleton.mp listed
  rcases Relation.ReflTransGen.cases_head inside with rfl | ⟨child, member, deeper⟩
  · cases described
  · obtain rfl := List.mem_singleton.mp member
    rcases Relation.ReflTransGen.cases_head deeper with rfl | ⟨child, member, _⟩
    · cases described
    · cases member

theorem self_drawing_form_is_counted_and_ends :
    let start := Interpreter.start.startPage 1 selfDrawnPage
    (∃ reached, GetsTo selfDrawnSetting selfDrawnPage.content start [.form] reached ∧
      reached.state.depth = 1 ∧ KeepsLimit selfDrawnSetting reached) ∧
    ∀ object, (ColorSpace.read selfDrawnSetting.store object).isSome := by
  intro start
  have main := nesting_is_counted_and_ends selfDrawnSetting 1 selfDrawnPage .start
  let drawn : NestedRun Float :=
    ⟨.form, selfDrawnForm.data, (start.moveTo ⟨some .external, 0⟩).modify
      ((surroundings selfDrawnSetting).formState ⟨selfDrawnForm, .object ⟨1, 0⟩⟩)⟩
  have drawnAt : (moments (surroundings selfDrawnSetting) selfDrawnPage.content start)[3]? =
      some (.begins drawn) := rfl
  have beginsAt : (moments (surroundings selfDrawnSetting) drawn.content drawn.start)[0]? =
      some (.between drawn.start) := rfl
  have getsTo : GetsTo selfDrawnSetting selfDrawnPage.content start ([] ++ [.form]) drawn.start :=
    .within (List.mem_of_getElem? drawnAt) (.here (List.mem_of_getElem? beginsAt))
  obtain ⟨level, _, keeps⟩ := main.1 _ _ getsTo
  refine ⟨⟨drawn.start, getsTo, level, keeps⟩, ?_⟩
  refine main.2.2.2.2 fun held holds loop => ?_
  obtain ⟨part, needs, _⟩ := Relation.TransGen.head'_iff.mp loop
  exact not_needs_selfDrawn holds needs

end Interpretation

end PdfElements
