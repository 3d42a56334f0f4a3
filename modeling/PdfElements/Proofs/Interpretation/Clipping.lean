import PdfElements.Proofs.Arithmetic.Double
import PdfElements.Proofs.Extraction.Reached
import PdfElements.Proofs.Geometry.Inclusion
import PdfElements.Proofs.Interpretation.Alike

/-! Clipping only ever narrows. The clip box of the current graphics state lies within that of the
state saved last, and so on down the stack, and all of them lie within the crop box of the page.
Saving and restoring only move along the stack, and only a path that ends changes a clip box. -/

set_option autoImplicit false

namespace PdfElements

variable {K : Type} [Scalar K]

open Scalar (Ordered Limited)

/-- The clip box of every state lies within that of the state saved before it, and all of them lie
within a box. -/
structure GraphicsStack.Narrows (box : Rect K) (stack : GraphicsStack K) : Prop where
  chain : (stack.current :: stack.saved).IsChain fun inner outer =>
    outer.clipBox.contains inner.clipBox
  within : ∀ state ∈ stack.current :: stack.saved, box.contains state.clipBox

namespace GraphicsStack

/-- What a command that runs no other stream does to the stack: it saves or restores, or changes the
current state, where at most a path that ends clips. -/
inductive Turns (stack : GraphicsStack K) : GraphicsStack K → Prop where
  | saves : Turns stack stack.save
  | restores : Turns stack stack.restore
  | changes {current : GraphicsState K} :
      current.clipBox = stack.current.clipBox → Turns stack { stack with current }
  | clips (bounds? : Option (Rect K)) :
      Turns stack { stack with current := stack.current.applyClip bounds? }

theorem Turns.refl (stack : GraphicsStack K) : stack.Turns stack := .changes rfl

namespace Narrows

variable {box : Rect K} {stack next : GraphicsStack K}

theorem ofState {state : GraphicsState K} (within : box.contains state.clipBox) :
    (GraphicsStack.ofState state).Narrows box :=
  ⟨.singleton _, List.forall_mem_singleton.mpr within⟩

theorem current (narrows : stack.Narrows box) : box.contains stack.current.clipBox :=
  narrows.within _ List.mem_cons_self

theorem restore (narrows : stack.Narrows box) : stack.restore.Narrows box := by
  obtain ⟨current, saved⟩ := stack
  cases saved with
  | nil => exact narrows
  | cons state rest => exact ⟨narrows.chain.tail, (List.forall_mem_cons.mp narrows.within).2⟩

variable [Ordered K]

theorem save (narrows : stack.Narrows box) : stack.save.Narrows box :=
  ⟨.cons_cons (Rect.contains_refl (.of_contains narrows.current)) narrows.chain,
    List.forall_mem_cons.mpr ⟨narrows.current, narrows.within⟩⟩

theorem clip (narrows : stack.Narrows box) {current : GraphicsState K}
    (less : stack.current.clipBox.contains current.clipBox) :
    GraphicsStack.Narrows box { stack with current } := by
  refine ⟨?_, List.forall_mem_cons.mpr ⟨Rect.contains_trans narrows.current less,
    (List.forall_mem_cons.mp narrows.within).2⟩⟩
  obtain ⟨_, saved⟩ := stack
  cases saved with
  | nil => exact .singleton _
  | cons state rest =>
      obtain ⟨inner, chain⟩ := List.isChain_cons_cons.mp narrows.chain
      exact .cons_cons (Rect.contains_trans inner less) chain

variable [Limited K]

theorem applyClip (narrows : stack.Narrows box) (bounds? : Option (Rect K)) :
    GraphicsStack.Narrows box { stack with current := stack.current.applyClip bounds? } := by
  have numeric : stack.current.clipBox.Numeric := .of_contains narrows.current
  refine narrows.clip ?_
  unfold GraphicsState.applyClip
  split
  · exact Rect.contains_refl numeric
  · exact Rect.contains_clipped numeric bounds?

theorem turns (narrows : stack.Narrows box) (turns : stack.Turns next) : next.Narrows box := by
  cases turns with
  | saves => exact narrows.save
  | restores => exact narrows.restore
  | changes same =>
      have numeric : stack.current.clipBox.Numeric := .of_contains narrows.current
      exact narrows.clip (same.symm ▸ Rect.contains_refl numeric)
  | clips bounds? => exact narrows.applyClip bounds?

end Narrows

end GraphicsStack

/-! ### What commands do to the stack -/

namespace Interpreter

theorem turns_setFont {before interpreter : Interpreter K}
    (same : before.state = interpreter.state) (typeface? : Option (Typeface K)) (name : String)
    (size : K) :
    interpreter.state.graphics.Turns (before.setFont typeface? name size).state.graphics := by
  rw [← same]
  exact .changes rfl

theorem turns_selectFont (setting : Setting) (name : String) (size : K) (object : Located Object)
    (interpreter : Interpreter K) :
    interpreter.state.graphics.Turns
      (interpreter.selectFont setting name size object).state.graphics := by
  unfold selectFont
  split
  · exact turns_setFont rfl _ name size
  · exact turns_setFont (state_warn setting _ interpreter) none name size

end Interpreter

namespace Surroundings

theorem turns_paintPath (surroundings : Surroundings K) (paints : List Paint)
    (interpreter : Interpreter K) :
    interpreter.state.graphics.Turns
      (surroundings.paintPath paints interpreter).state.graphics := by
  obtain ⟨events, painted⟩ := Interpreter.paintPath_eq surroundings paints interpreter
  rw [painted]
  exact .clips _

theorem turns_execute (surroundings : Surroundings K) {command : Command K}
    (plain : command.nests = false) (interpreter : Interpreter K) :
    interpreter.state.graphics.Turns
      (surroundings.execute command interpreter).interpreter.state.graphics := by
  cases command with
  | «show» | external => cases plain
  | save => exact .saves
  | restore => exact .restores
  | paint paints => exact surroundings.turns_paintPath paints interpreter
  | graphicsState name =>
      simp only [execute, selectState]
      split
      · exact .refl _
      · exact .refl _
      · exact interpreter.turns_selectFont _ _ _ _
  | font name size =>
      simp only [execute, Interpreter.selectNamedFont]
      split
      · exact interpreter.turns_selectFont _ _ _ _
      · exact Interpreter.turns_setFont (Interpreter.state_warn _ _ interpreter) none name size
  | moveText | textMatrix | nextLine | adjust =>
      simp only [execute, moveText]
      split
      · exact .refl _
      · exact .refl _
  | glyphBox =>
      simp only [execute]
      split
      · exact .refl _
      · exact .refl _
  | deviceSpace role | components role =>
      cases role
      · exact .changes rfl
      · exact .changes rfl
  | selectSpace role =>
      simp only [execute]
      split
      · cases role
        · exact .changes rfl
        · exact .changes rfl
      · exact .refl _
      · exact .refl _
  | inlineImage image =>
      simp only [execute]
      split
      · exact .refl _
      · exact (interpreter.state_paintImage _ _).symm ▸ .refl _
  | concat | clip => exact .changes rfl
  | characterSpacing | wordSpacing | horizontalScaling | leading | rise => exact .changes rfl
  | _ => exact .refl _

end Surroundings

namespace Interpretation

variable [Ordered K] [Limited K]

theorem invariant_narrows (setting : Setting) (box : Rect K) :
    Invariant (K := K) setting (fun _ => True)
      (fun interpreter => interpreter.state.graphics.Narrows box) where
  moveTo _ narrows := narrows
  warn _ narrows := by
    rwa [Interpreter.state_warn]
  execute plain _ narrows := narrows.turns ((surroundings setting).turns_execute plain _)
  paintImage image _ _ narrows := by
    rwa [Interpreter.state_paintImage]
  sendCharacter _ _ _ _ narrows := narrows
  movePen _ narrows := narrows
  enterForm _ _ narrows := .ofState narrows.current
  enterGlyph _ _ _ _ narrows := .ofState narrows.current
  leave outer _ := outer

/-- Wherever the run of a stream gets to, clip boxes lie within the one that the stream began
with. -/
theorem GetsTo.narrows {setting : Setting} {content : List UInt8} {start reached : Interpreter K}
    {around : List NestedStream} (getsTo : GetsTo setting content start around reached)
    {box : Rect K} (begins : start.state.graphics.Narrows box) :
    reached.state.graphics.Narrows box :=
  ((invariant_narrows setting box).run (fun _ _ _ => trivial) begins).1 around reached getsTo

/-- Wherever the run of a page gets to, also within forms and glyphs, the clip box of every graphics
state lies within that of the state saved before it, and all of them within the crop box of the
page. -/
theorem clipping_narrows (setting : Setting) (number : Nat) (id : ObjectId)
    (interpreter : Interpreter K) {reached : Interpreter K} {around : List NestedStream}
    (getsTo : GetsTo setting (Interpreter.readPage (K := K) setting id).1.content
      (interpreter.openPage setting number id) around reached) :
    reached.state.graphics.Narrows (Interpreter.readPage (K := K) setting id).1.cropBox :=
  getsTo.narrows (.ofState (Rect.contains_refl (Interpreter.numeric_cropBox setting id)))

/-- A document with a page that clips to a square, and then to another one apart from it. -/
def clippingPage : ObjectStore :=
  let key := Text.encodeUtf8
  { objects := [
      (⟨3, 0⟩, .dictionary [(key "Type", .name (key "Page")), (key "Contents", .reference ⟨4, 0⟩)]),
      (⟨4, 0⟩, .stream [] (key "q 0 0 50 50 re W n q 300 300 5 5 re W n"))]
    trailer := [] }

/-- Nothing is left of the crop box at the end, and what is saved is the square and the box. -/
theorem disjoint_clips_narrow :
    let setting : Setting := ⟨clippingPage, {}⟩
    ∃ reached : Interpreter Float,
      GetsTo setting (Interpreter.readPage (K := Float) setting ⟨3, 0⟩).1.content
        (Interpreter.start.openPage setting 1 ⟨3, 0⟩) [] reached ∧
      (reached.state.graphics.current :: reached.state.graphics.saved).map
        (fun state => state.clipBox) = [.empty, ⟨0, 0, 50, 50⟩, PageSource.standardBox] ∧
      reached.state.graphics.Narrows PageSource.standardBox := by
  intro setting
  let start : Interpreter Float := Interpreter.start.openPage setting 1 ⟨3, 0⟩
  let content := (Interpreter.readPage (K := Float) setting ⟨3, 0⟩).1.content
  let clips : Moment Float → List (Rect Float)
    | .between interpreter =>
      (interpreter.state.graphics.current :: interpreter.state.graphics.saved).map
        fun state => state.clipBox
    | .begins _ => []
  have last : ((moments (surroundings setting) content start).getLast?.map clips) =
      some [.empty, ⟨0, 0, 50, 50⟩, PageSource.standardBox] := by decide +kernel
  obtain ⟨moment, found, same⟩ := Option.map_eq_some_iff.mp last
  have member := List.mem_of_getLast? found
  cases moment with
  | begins run => cases same
  | between reached =>
      have narrows := clipping_narrows setting 1 ⟨3, 0⟩ .start (.here member)
      exact ⟨reached, .here member, same, narrows⟩

end Interpretation

end PdfElements
