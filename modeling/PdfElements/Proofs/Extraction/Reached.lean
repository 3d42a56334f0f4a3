import PdfElements.Proofs.Extraction.Trace
import PdfElements.Proofs.Interpretation.Fonts
import PdfElements.Proofs.Interpretation.Invariants

/-! What the run of a document gets to. An invariant of runs that holds before the first page, and
that the beginning and the end of pages keep, holds wherever the run gets to. So resources are, at
any time, what the document has at their place, and the fonts that were read what it offers. -/

set_option autoImplicit false

namespace PdfElements

variable {K : Type} [Scalar K]

namespace Interpreter

/-- The interpreter as the content of a page begins, behind the warnings about the page. -/
def openPage (setting : Setting) (number : Nat) (id : ObjectId) (interpreter : Interpreter K) :
    Interpreter K :=
  let (source, defects) := readPage setting id
  let warned := defects.foldl
    (fun interpreter description => interpreter.warn setting (defect number description)) interpreter
  warned.startPage number source

theorem page_eq (setting : Setting) (number : Nat) (id : ObjectId) (interpreter : Interpreter K) :
    interpreter.page setting number id =
      (Interpretation.run setting (readPage (K := K) setting id).1.content
        (interpreter.openPage setting number id)).send (.pageEnd number) := rfl

end Interpreter

open Interpretation

theorem Interpretation.GetsTo.refl (setting : Setting) (content : List UInt8)
    (start : Interpreter K) : GetsTo setting content start [] start := by
  refine .here ?_
  unfold moments
  cases (Content.tokens (K := K) content).tokens.toList <;> exact List.mem_cons_self

/-- An interpreter that the run of a document gets to, in the content of a page that is not behind
the limit, or in a stream within it. -/
def Extraction.Reaches (setting : Setting) (reached : Interpreter K) : Prop :=
  ∃ front id back around, PageTree.pages setting.store = front ++ id :: back ∧
    Interpreter.stops setting front.length = false ∧
    GetsTo setting (Interpreter.readPage (K := K) setting id).1.content
      ((Interpreter.start.pages setting (PageTree.pages setting.store).length 0 front).openPage
        setting (front.length + 1) id) around reached

namespace Interpretation.Invariant

variable {setting : Setting} {holds : Interpreter K → Prop}

theorem openPage (invariant : Invariant setting (fun _ => True) holds)
    (startPage : ∀ number id {interpreter}, holds interpreter →
      holds (interpreter.startPage number (Interpreter.readPage setting id).1))
    (number : Nat) (id : ObjectId) {interpreter : Interpreter K} (now : holds interpreter) :
    holds (interpreter.openPage setting number id) := by
  have warned (defects : List String) : ∀ {interpreter}, holds interpreter →
      holds (defects.foldl (fun interpreter description =>
        interpreter.warn setting (Interpreter.defect number description)) interpreter) := by
    induction defects with
    | nil => exact fun now => now
    | cons defect rest ih => exact fun now => ih (invariant.warn _ now)
  exact startPage number id (warned _ now)

theorem page (invariant : Invariant setting (fun _ => True) holds)
    (startPage : ∀ number id {interpreter}, holds interpreter →
      holds (interpreter.startPage number (Interpreter.readPage setting id).1))
    (endPage : ∀ number {interpreter}, holds interpreter →
      holds (interpreter.send (.pageEnd number)))
    (number : Nat) (id : ObjectId) {interpreter : Interpreter K} (now : holds interpreter) :
    holds (interpreter.page setting number id) := by
  rw [Interpreter.page_eq]
  exact endPage number (invariant.run (fun _ _ _ => trivial)
    (invariant.openPage startPage number id now)).2

theorem pages (invariant : Invariant setting (fun _ => True) holds)
    (startPage : ∀ number id {interpreter}, holds interpreter →
      holds (interpreter.startPage number (Interpreter.readPage setting id).1))
    (endPage : ∀ number {interpreter}, holds interpreter →
      holds (interpreter.send (.pageEnd number)))
    (total index : Nat) (ids : List ObjectId) {interpreter : Interpreter K}
    (now : holds interpreter) : holds (interpreter.pages setting total index ids) := by
  induction ids generalizing index interpreter with
  | nil => exact now
  | cons id rest ih =>
      unfold Interpreter.pages
      split
      · exact invariant.warn _ now
      · exact ih (index + 1) (invariant.page startPage endPage _ id now)

theorem reaches (invariant : Invariant setting (fun _ => True) holds)
    (startPage : ∀ number id {interpreter}, holds interpreter →
      holds (interpreter.startPage number (Interpreter.readPage setting id).1))
    (endPage : ∀ number {interpreter}, holds interpreter →
      holds (interpreter.send (.pageEnd number)))
    (start : holds .start) {reached : Interpreter K} (reaches : Extraction.Reaches setting reached) :
    holds reached := by
  -- First all pages before the one that the run is at, then the page itself.
  obtain ⟨front, id, back, around, _, _, getsTo⟩ := reaches
  have earlier := invariant.pages startPage endPage (PageTree.pages setting.store).length 0 front
    start
  exact (invariant.run (fun _ _ _ => trivial)
    (invariant.openPage startPage _ id earlier)).1 around reached getsTo

end Interpretation.Invariant

/-! ### What a document supplied -/

/-- An interpreter with the resources that a document provides, and with fonts that look like what
it offers. -/
structure Interpreter.Supplied (store : ObjectStore) (look : Font → Font)
    (interpreter : Interpreter K) : Prop where
  resources : store.Provides interpreter.state.resources
  pageResources : store.Provides interpreter.state.pageResources
  fonts : interpreter.fonts.Sound store look

namespace Interpretation

variable {setting : Setting} {look : Font → Font} {interpreter : Interpreter K}

theorem sound_selectFont (same : Typeface.SameUnderNames K setting.store look)
    (sound : interpreter.fonts.Sound setting.store look) {name : String} {object : Located Object}
    (offered : setting.store.OffersFont name object) (size : K) :
    (interpreter.selectFont setting name size object).fonts.Sound setting.store look := by
  have loads := sound.load same offered
  unfold Interpreter.selectFont
  generalize interpreter.fonts.load setting.store name object = loaded at loads ⊢
  generalize (Typeface.ofObject (K := K) setting.store name object.value).map _ = afresh at loads
  cases loads with
  | ok _ next => exact next
  | error fault => exact (Interpreter.fonts_warn setting _ interpreter).symm ▸ sound

theorem sound_paintImage (image : Stream) (sound : interpreter.fonts.Sound setting.store look) :
    (interpreter.paintImage setting image).fonts.Sound setting.store look := by
  obtain ⟨event, painted⟩ := Interpreter.paintImage_eq setting image interpreter
  exact painted ▸ sound

theorem sound_execute (same : Typeface.SameUnderNames K setting.store look) {command : Command K}
    (plain : command.nests = false) (supplied : interpreter.Supplied setting.store look) :
    ((surroundings setting).execute command interpreter).interpreter.fonts.Sound
      setting.store look := by
  have acts := (surroundings setting).acts_execute plain interpreter
  generalize ((surroundings setting).execute command interpreter).interpreter = after at acts
  cases acts with
  | changes | getsStuck => exact supplied.fonts
  | selects name size object offers =>
      exact sound_selectFont same supplied.fonts (offers supplied.resources) size
  | selectsNone => exact (Interpreter.fonts_warn setting _ interpreter).symm ▸ supplied.fonts
  | paints paints =>
      obtain ⟨events, painted⟩ := Interpreter.paintPath_eq (surroundings setting) paints interpreter
      rw [painted]
      exact supplied.fonts
  | pictures image => exact sound_paintImage image supplied.fonts

theorem invariant_supplied (setting : Setting)
    (same : Typeface.SameUnderNames K setting.store look) :
    Invariant (K := K) setting (fun _ => True) (Interpreter.Supplied setting.store look) where
  moveTo _ supplied := ⟨supplied.resources, supplied.pageResources, supplied.fonts⟩
  warn warning supplied := by
    refine ⟨?_, ?_, ?_⟩
    · rw [Interpreter.state_warn]
      exact supplied.resources
    · rw [Interpreter.state_warn]
      exact supplied.pageResources
    · rw [Interpreter.fonts_warn]
      exact supplied.fonts
  execute {interpreter command} plain _ supplied := by
    have nested : (surroundings (K := K) setting).nested.Resumes := resumes_run setting
    have continues := Surroundings.continues_execute nested command interpreter
    exact ⟨continues.resources ▸ supplied.resources,
      continues.pageResources ▸ supplied.pageResources, sound_execute same plain supplied⟩
  paintImage image _ _ supplied := by
    refine ⟨?_, ?_, sound_paintImage image supplied.fonts⟩
    · rw [Interpreter.state_paintImage]
      exact supplied.resources
    · rw [Interpreter.state_paintImage]
      exact supplied.pageResources
  sendCharacter _ _ _ _ supplied := ⟨supplied.resources, supplied.pageResources, supplied.fonts⟩
  movePen _ supplied := ⟨supplied.resources, supplied.pageResources, supplied.fonts⟩
  enterForm form has supplied :=
    ⟨(surroundings setting).provides_formState (has supplied.resources) supplied.pageResources,
      supplied.pageResources, supplied.fonts⟩
  enterGlyph glyphs procedure rendering has supplied :=
    ⟨(surroundings setting).provides_glyphState has glyphs rendering supplied.resources,
      supplied.pageResources, supplied.fonts⟩
  leave outer inner := ⟨outer.resources, outer.pageResources, inner.fonts⟩

end Interpretation

theorem Extraction.Reaches.supplied {setting : Setting} {look : Font → Font}
    (same : Typeface.SameUnderNames K setting.store look) {reached : Interpreter K}
    (reaches : Extraction.Reaches setting reached) : reached.Supplied setting.store look :=
  (invariant_supplied setting same).reaches
    (fun _ id _ supplied => ⟨Interpreter.provides_readPage setting id,
      Interpreter.provides_readPage setting id, supplied.fonts⟩)
    (fun _ _ supplied => ⟨supplied.resources, supplied.pageResources, supplied.fonts⟩)
    ⟨setting.store.provides_nothing, setting.store.provides_nothing,
      FontCache.sound_nil setting.store look⟩ reaches

end PdfElements
