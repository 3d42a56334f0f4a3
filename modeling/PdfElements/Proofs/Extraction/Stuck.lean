import PdfElements.Proofs.ColorSpace.Reading
import PdfElements.Proofs.Extraction.Reached
import PdfElements.Proofs.Extraction.Reported
import PdfElements.Proofs.Interpretation.Origins

/-! Runs get stuck at color spaces only, and so never in a document where no color space is part of
itself. -/

set_option autoImplicit false

namespace PdfElements

variable {K : Type} {store : ObjectStore} (acyclic : ColorSpace.Acyclic store)

include acyclic

theorem ColorSpace.readName_ne_none (resources : Dictionary) (name : String) :
    readName store resources name ≠ none := by
  unfold readName
  split
  · nofun
  · dsimp only
    split
    · exact Option.isSome_iff_ne_none.mp (read_isSome_of_acyclic acyclic _)
    · nofun

namespace Appearance

theorem space_ne_none (resources dictionary : Dictionary) :
    space store resources dictionary ≠ none := by
  unfold space
  cases dictionary.find? "ColorSpace" with
  | none => nofun
  | some object =>
      have read : (ColorSpace.read store object).isSome :=
        ColorSpace.read_isSome_of_acyclic acyclic object
      obtain ⟨space?, read⟩ := Option.isSome_iff_exists.mp read
      cases object with
      | name name =>
          obtain ⟨named?, named⟩ := Option.ne_none_iff_exists'.mp
            (ColorSpace.readName_ne_none acyclic resources (Text.decodeUtf8 name))
          simp [named]
      | _ => simp [read]

theorem ofStream_ne_none (resources : Dictionary) (stream : Stream) (metadata : ImageMetadata)
    (fill : Color) : ofStream store resources stream metadata fill ≠ none := by
  unfold ofStream
  split
  · nofun
  · dsimp only
    split
    · nofun
    · rw [Ne, Option.map_eq_none_iff]
      exact space_ne_none acyclic resources stream.entries

theorem ofImage_ne_none (resources : Dictionary) (stream : Stream) (fill : Color) :
    ofImage store resources stream fill ≠ none := by
  unfold ofImage
  dsimp only
  split
  · nofun
  · split
    · nofun
    · split
      · nofun
      · exact ofStream_ne_none acyclic resources stream _ fill
    · exact ofStream_ne_none acyclic resources stream _ fill

end Appearance

variable [Scalar K]

theorem Interpreter.goesOn_of_pictures {options : ExtractionOptions} {interpreter : Interpreter K}
    {event : Event K} (pictures : interpreter.Pictures ⟨store, options⟩ event) :
    event.isStuck = false := by
  obtain ⟨image, sent⟩ := pictures
  unfold paintImage at sent
  dsimp only at sent
  split at sent
  · exact send_inj sent ▸ rfl
  · exact send_inj sent ▸ rfl
  · next endless => exact absurd endless (Appearance.ofImage_ne_none acyclic _ image _)

theorem Interpretation.invariant_goesOn (options : ExtractionOptions) (before : Interpreter K) :
    Invariant ⟨store, options⟩ (fun _ => True)
      (before.AddsOnly fun event => event.isStuck = false) where
  moveTo _ goesOn := goesOn
  warn warning goesOn := goesOn.warn (fun _ => rfl) _ warning
  execute plain _ goesOn :=
    (surroundings ⟨store, options⟩).execute_addsOnly plain goesOn (fun _ => rfl) (fun _ _ => rfl)
      (fun _ _ pictures => Interpreter.goesOn_of_pictures acyclic pictures)
      (fun name endless => absurd endless (ColorSpace.readName_ne_none acyclic _ name))
  paintImage {interpreter} image _ _ goesOn := by
    obtain ⟨event, sent, pictures⟩ := interpreter.pictures_paintImage ⟨store, options⟩ image
    rw [sent]
    exact goesOn.send (Interpreter.goesOn_of_pictures acyclic pictures)
  sendCharacter _ _ _ _ goesOn := goesOn.send rfl
  movePen _ goesOn := goesOn
  enterForm _ _ goesOn := goesOn
  enterGlyph _ _ _ _ goesOn := goesOn
  leave _ goesOn := goesOn

namespace Extraction

theorem goesOn_page (options : ExtractionOptions) (number : Nat) (id : ObjectId) :
    GoesOn ((Interpreter.start : Interpreter K).page ⟨store, options⟩ number id).events.toList := by
  have invariant := Interpretation.invariant_goesOn acyclic options (.start : Interpreter K)
  obtain ⟨added, events, goesOn⟩ := invariant.page (fun _ _ _ goesOn => goesOn.send rfl)
    (fun _ _ goesOn => goesOn.send rfl) number id (.refl _)
  rw [events]
  exact goesOn

theorem goesOn_trace (options : ExtractionOptions) :
    GoesOn (trace store options : List (Event K)) := by
  have invariant := Interpretation.invariant_goesOn acyclic options (.start : Interpreter K)
  obtain ⟨added, events, goesOn⟩ := invariant.pages (fun _ _ _ goesOn => goesOn.send rfl)
    (fun _ _ goesOn => goesOn.send rfl) (PageTree.pages store).length 0 (PageTree.pages store)
    (.refl _)
  have all : (trace store options : List (Event K)) = added := events
  rw [all]
  exact goesOn

end Extraction

end PdfElements
