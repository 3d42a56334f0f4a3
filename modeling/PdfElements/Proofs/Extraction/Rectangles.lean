import PdfElements.Proofs.Extraction.Reached
import PdfElements.Proofs.Extraction.Rounding
import PdfElements.Proofs.Geometry.Bounds
import PdfElements.Proofs.Interpretation.DeclaredBoxes
import PdfElements.Proofs.Interpretation.Origins
import PdfElements.Proofs.Page.Tree

/-! The rectangles of what is extracted. Characters have the image of a rectangle or a box that
their glyph declared, which is such an image too, shapes have the bounds of a path, and images their
place; all of these have their bounds in order, before rounding and behind it. -/

set_option autoImplicit false

namespace PdfElements

variable {K : Type}

open Scalar (OrderedField RoundsHalfAway Total)

def Event.rect? : Event K → Option (Rect K)
  | .character shown => some shown.rect
  | .figure image => some image.rect
  | .shape area => some area.rect
  | .warning _ | .pageStart .. | .pageEnd _ | .stuck _ => none

variable [Scalar K]

theorem Event.rect?_of_presented? {options : ExtractionOptions} {event shown : Event K}
    (presented : event.presented? options = some shown) :
    shown.rect? = event.rect?.map fun rect => rect.rounded options.places? := by
  cases event with
  | warning problem =>
      simp only [presented?] at presented
      split at presented <;> cases presented
      rfl
  | _ =>
      cases presented
      rfl

/-- What an event reports is a rectangle with bounds in order, rounded. -/
def Event.Outlined (places? : Option Nat) (event : Event K) : Prop :=
  ∀ rect, event.rect? = some rect → ∃ box : Rect K, box.Upright ∧ rect = box.rounded places?

theorem Event.Outlined.of_box {places? : Option Nat} {event : Event K} {box : Rect K}
    (upright : box.Upright) (found : event.rect? = some (box.rounded places?)) :
    event.Outlined places? :=
  fun _ same => ⟨box, upright, Option.some.inj (same.symm.trans found)⟩

namespace Interpreter

/-- Since an earlier interpreter all rectangles were in order, as is the box that the glyph
declared. -/
structure OutlinesSince (setting : Setting) (before interpreter : Interpreter K) : Prop where
  declared : ∀ box, interpreter.state.glyphBox? = some box → box.Upright
  events : before.AddsOnly (Event.Outlined setting.options.places?) interpreter

variable [Total K]

theorem outlined_of_outlines {setting : Setting} {interpreter : Interpreter K} {area : Shape K}
    (outlines : interpreter.Outlines setting area) :
    (Event.shape area).Outlined setting.options.places? := by
  obtain ⟨bounds, paint, found, rfl⟩ := outlines
  exact .of_box (Rect.upright_of_bounds? found) rfl

theorem outlined_of_pictures {setting : Setting} {interpreter : Interpreter K} {event : Event K}
    (pictures : interpreter.Pictures setting event) : event.Outlined setting.options.places? := by
  obtain ⟨image, sent⟩ := pictures
  have upright : ((ImageMetadata.read setting.store image.entries).bounds
      interpreter.state.current.matrix).Upright := Rect.upright_ofCorners _ _ _ _
  unfold paintImage at sent
  simp only at sent
  split at sent
  · exact send_inj sent ▸ .of_box upright rfl
  · exact send_inj sent ▸ .of_box upright rfl
  · exact send_inj sent ▸ nofun

end Interpreter

namespace Interpretation

variable [Total K]

theorem declared_execute (setting : Setting) (command : Command K) {interpreter : Interpreter K}
    (declared : ∀ box, interpreter.state.glyphBox? = some box → box.Upright) {box : Rect K}
    (found : ((surroundings setting).execute command interpreter).interpreter.state.glyphBox? =
      some box) : box.Upright := by
  have nested : (surroundings (K := K) setting).nested.Resumes := resumes_run setting
  have others (other : command.owner? ≠ some .glyphBox) : box.Upright :=
    declared box ((congrArg Declaration.box?
      (Surroundings.declaration_execute nested other interpreter)).symm.trans found)
  cases command with
  | glyphBox first second =>
      simp only [Surroundings.execute] at found
      split at found
      · obtain rfl := Option.some.inj found
        exact Rect.upright_image _ _ _ _ _
      · exact declared box found
  | _ => exact others fun owned => by cases owned

theorem invariant_outlinesSince (setting : Setting) (before : Interpreter K) :
    Invariant setting (fun _ => True) (before.OutlinesSince setting) where
  moveTo _ outlined := ⟨outlined.declared, outlined.events⟩
  warn warning outlined := by
    refine ⟨?_, outlined.events.warn (fun _ => nofun) setting warning⟩
    rw [Interpreter.state_warn]
    exact outlined.declared
  execute plain _ outlined :=
    ⟨fun _ found => declared_execute setting _ outlined.declared found,
      (surroundings setting).execute_addsOnly plain outlined.events (fun _ => nofun)
        (fun _ outlines => Interpreter.outlined_of_outlines outlines)
        (fun _ _ pictured => Interpreter.outlined_of_pictures pictured) (fun _ _ => nofun)⟩
  paintImage {interpreter} image _ _ outlined := by
    refine ⟨?_, ?_⟩
    · rw [Interpreter.state_paintImage]
      exact outlined.declared
    · obtain ⟨event, sent, pictured⟩ := interpreter.pictures_paintImage setting image
      rw [sent]
      exact outlined.events.send (Interpreter.outlined_of_pictures pictured)
  sendCharacter {interpreter box} _ _ _ source outlined := by
    have upright : box.Upright := by
      cases source with
      | image => exact Rect.upright_image _ _ _ _ _
      | declared behind found => exact behind.declared box found
    exact ⟨outlined.declared, outlined.events.send (.of_box upright rfl)⟩
  movePen _ outlined := ⟨outlined.declared, outlined.events⟩
  enterForm _ _ outlined := ⟨nofun, outlined.events⟩
  enterGlyph _ _ _ _ outlined := ⟨nofun, outlined.events⟩
  leave outer inner := ⟨outer.declared, inner.events⟩

end Interpretation

namespace Extraction

theorem outlined_of_mem_events [Total K] {store : ObjectStore} {options : ExtractionOptions}
    {event : Event K} (member : event ∈ events store options) : event.Outlined options.places? := by
  let start : Interpreter K := .start
  have begins : start.OutlinesSince ⟨store, options⟩ start :=
    ⟨fun _ found => (nomatch (found : none = some _)), .refl start⟩
  obtain ⟨added, all, outlined⟩ :=
    ((Interpretation.invariant_outlinesSince ⟨store, options⟩ start).pages
      (fun number source _ outlined => ⟨nofun, outlined.events.send nofun⟩)
      (fun number _ outlined => ⟨outlined.declared, outlined.events.send nofun⟩)
      (PageTree.pages store).length 0 (PageTree.pages store) begins).events
  have all : trace store options = added := all
  exact outlined event (all ▸ mem_of_mem_reported member)

/-- Over exact numbers, every rectangle that is reported has its bounds in order: the one that the
run without rounding reports, and what it is rounded to with any number of places. The images of
rectangles, which characters have, the places of images and the bounds of paths are in order under
any matrix. Rounding keeps the order of numbers and inclusion, and does nothing a second time. -/
theorem reported_rectangles_are_upright (K : Type) [Scalar K] [OrderedField K]
    [RoundsHalfAway K] :
    (∀ (store : ObjectStore) (options : ExtractionOptions), ∀ event ∈ events store options,
      ∀ rect : Rect (Extended K), event.rect? = some rect →
        ∃ whole ∈ events store options.unrounded, ∃ box, whole.rect? = some box ∧
          rect = box.rounded options.places? ∧ box.Upright ∧
          ∀ places?, (box.rounded places?).Upright) ∧
    (∀ (matrix : Matrix (Extended K)) (left bottom right top : Extended K),
      (Rect.image matrix left bottom right top).Upright) ∧
    (∀ (metadata : ImageMetadata) (matrix : Matrix (Extended K)),
      (metadata.bounds matrix).Upright) ∧
    (∀ (path : Path (Extended K)) (bounds : Rect (Extended K)), path.bounds? = some bounds →
      bounds.Upright) ∧
    (∀ (places? : Option Nat) (first second : Extended K), first ≤ second →
      Scalar.roundTo first places? ≤ Scalar.roundTo second places?) ∧
    (∀ (places? : Option Nat) (rect : Rect (Extended K)),
      (rect.rounded places?).rounded places? = rect.rounded places?) ∧
    (∀ (places? : Option Nat) (outer inner : Rect (Extended K)), outer.contains inner →
      inner = .empty ∨ inner.Upright →
        (outer.rounded places?).contains (inner.rounded places?)) := by
  refine ⟨?_, Rect.upright_image, fun _ _ => Rect.upright_ofCorners _ _ _ _,
    fun _ _ => Rect.upright_of_bounds?, fun places? _ _ => Extended.roundTo_mono places?,
    fun places? => Rect.rounded_rounded places?, fun places? _ _ => Rect.contains_rounded places?⟩
  intro store options event member rect found
  rw [events_eq_presented] at member
  obtain ⟨whole, reported, presented⟩ := List.mem_filterMap.mp member
  rw [Event.rect?_of_presented? presented] at found
  obtain ⟨box, boxed, rfl⟩ := Option.map_eq_some_iff.mp found
  obtain ⟨outline, upright, same⟩ := outlined_of_mem_events reported box boxed
  obtain rfl : box = outline := same.trans (Rect.rounded_none outline)
  exact ⟨whole, reported, box, boxed, rfl, upright, fun places? => upright.rounded places?⟩

def flippedPage : ObjectStore :=
  let key := Text.encodeUtf8
  { objects := [
      (⟨1, 0⟩, .dictionary [(key "Pages", .reference ⟨2, 0⟩)]),
      (⟨2, 0⟩, .dictionary [(key "Kids", .array [.reference ⟨3, 0⟩])]),
      (⟨3, 0⟩, .dictionary [(key "Type", .name (key "Page")), (key "Contents", .reference ⟨4, 0⟩)]),
      (⟨4, 0⟩, .stream [] (key "-1 0 0 -1 100 100 cm 10 10 5.5 5 re f"))]
    trailer := [(key "Root", .reference ⟨1, 0⟩)] }

/-- The edge at eighty-four and a half goes up to eighty-five. -/
theorem flipped_rectangle_is_upright :
    let options : ExtractionOptions := { places? := some 0 }
    let rect : Rect (Extended ℚ) := ⟨.number 85, .number 85, .number 90, .number 90⟩
    (.shape ⟨1, rect, .black⟩ : Event (Extended ℚ)) ∈ events flippedPage options ∧
      ∃ whole ∈ events flippedPage options.unrounded, ∃ box : Rect (Extended ℚ),
        whole.rect? = some box ∧ rect = box.rounded (some 0) ∧ box.Upright := by
  intro options rect
  have root : PageTree.root? flippedPage = some ⟨2, 0⟩ := by decide +kernel
  have pages : PageTree.pages flippedPage = [⟨3, 0⟩] :=
    PageTree.pages_of_children root rfl (by decide +kernel) (by decide)
  have reported : (.shape ⟨1, rect, .black⟩ : Event (Extended ℚ)) ∈ events flippedPage options := by
    simp only [events, trace, pages]
    decide +kernel
  obtain ⟨whole, member, box, boxed, same, upright, _⟩ :=
    (reported_rectangles_are_upright ℚ).1 flippedPage options _ reported rect rfl
  exact ⟨reported, whole, member, box, boxed, same, upright⟩

end Extraction

end PdfElements
