import Mathlib.Data.List.Forall2
import PdfElements.Proofs.Arithmetic.Double
import PdfElements.Proofs.Extraction.Pages
import PdfElements.Proofs.Output.References
import PdfElements.Proofs.Page.Tree

/-! Which characters are written with their fonts: those that have a positive size. Fonts are shown
upside down with a negative size, and then they are left out like those without any extent. -/

set_option autoImplicit false

namespace PdfElements

variable {K : Type} [Scalar K]

open Scalar (Ordered Limited)

namespace View

/-- What is written of a character refers to its font, with its size, in the list of fonts. -/
def CarriesFont (view : View K) (character : Character K) (entry : CharacterEntry K) : Prop :=
  ∃ id, entry.font? = some ⟨id, character.size⟩ ∧ ⟨id, character.font⟩ ∈ view.fonts

variable {document : Document K} {types : List ElementType}

theorem carriesFont_of_pos (characters : .characters ∈ types) {character : Character K}
    (member : character ∈ document.characters) (sized : Scalar.ofInt 0 < character.size) :
    (ofDocument document types).CarriesFont character
      (numberedCharacter (fontsOf (charactersOf document types)) (colorsOf document types)
        character) := by
  have refers : refersToFont character := decide_eq_true sized
  let fonts := ResourceIds.distinct (fontsOf (charactersOf document types))
  let id := ResourceIds.fontIdAt (fonts.idxOf character.font)
  refine ⟨id, if_pos refers, ?_⟩
  have referred : character.font ∈ fontsOf (charactersOf document types) := by
    rw [charactersOf, wanted, if_pos (List.contains_iff_mem.mpr characters)]
    exact List.mem_map_of_mem (List.mem_filter.mpr ⟨member, refers⟩)
  have numbered : (id, character.font) ∈
      (ofDocument document types).fonts.map fun entry => (entry.id, entry.font) := by
    rw [fonts_eq]
    exact ResourceIds.mem_tableOf.mpr ⟨_, ResourceIds.getElem_idxOf_distinct referred, rfl⟩
  obtain ⟨⟨id, font⟩, listed, same⟩ := List.mem_map.mp numbered
  obtain ⟨rfl, rfl⟩ := Prod.mk.inj same
  exact listed

theorem font?_of_not_pos {fonts : List Font} {colors : List Color} {character : Character K}
    (unsized : ¬Scalar.ofInt 0 < character.size) :
    (numberedCharacter fonts colors character).font? = none :=
  if_neg (mt of_decide_eq_true unsized)

end View

/-- Every character that a document shows is written, in order. One with a positive size refers to
its font, which is listed, with that size. Others do not refer to their fonts: of those whose size is
a number, the ones whose size is zero or negative. -/
theorem View.fonts_are_written_at_positive_sizes [Ordered K] [Limited K] (store : ObjectStore)
    (options : ExtractionOptions) (source? : Option String) {assembly : Assembly K}
    (extracted : Extraction.document store options source? = some assembly)
    {types : List ElementType} (characters : .characters ∈ types) :
    let shown : List (Character K) := Event.characters (Extraction.events store options)
    let view := View.ofDocument assembly.document types
    ∃ entries, view.characters? = some entries ∧
      List.Forall₂ (fun character entry =>
        (Scalar.ofInt 0 < character.size → view.CarriesFont character entry) ∧
        (¬Scalar.ofInt 0 < character.size → entry.font? = none) ∧
        (Scalar.isNumber character.size →
          (entry.font? = none ↔ character.size ≤ Scalar.ofInt 0))) shown entries := by
  intro shown view
  let document : Document K := assembly.document
  obtain ⟨_, _, _, stored⟩ := Extraction.stored_of_document extracted
  refine ⟨shown.map (numberedCharacter (fontsOf (charactersOf document types))
    (colorsOf document types)), ?_, ?_⟩
  · rw [characters?_ofDocument, wanted, if_pos (List.contains_iff_mem.mpr characters),
      Option.map_some]
    exact congrArg some (congrArg _ stored)
  · rw [List.forall₂_map_right_iff, List.forall₂_same]
    intro character member
    have stored : character ∈ document.characters := stored ▸ member
    have written := carriesFont_of_pos characters stored
    refine ⟨written, font?_of_not_pos, fun number => ?_⟩
    rw [← Ordered.not_lt (Limited.isNumber_ofInt 0) number]
    refine ⟨fun missing sized => ?_, font?_of_not_pos⟩
    obtain ⟨id, found, _⟩ := written sized
    rw [missing] at found
    cases found

def twoSizes : ObjectStore :=
  let key := Text.encodeUtf8
  let fonts : Object := .dictionary [(key "F", .reference ⟨5, 0⟩)]
  { objects := [
      (⟨1, 0⟩, .dictionary [(key "Pages", .reference ⟨2, 0⟩)]),
      (⟨2, 0⟩, .dictionary [(key "Kids", .array [.reference ⟨3, 0⟩])]),
      (⟨3, 0⟩, .dictionary [(key "Type", .name (key "Page")),
        (key "Resources", .dictionary [(key "Font", fonts)]), (key "Contents", .reference ⟨4, 0⟩)]),
      (⟨4, 0⟩, .stream [] (key "BT /F -9 Tf (A) Tj /F 9 Tf (B) Tj ET")),
      (⟨5, 0⟩, .dictionary [(key "Subtype", .name (key "Type1")),
        (key "BaseFont", .name (key "Helvetica"))])]
    trailer := [(key "Root", .reference ⟨1, 0⟩)] }

theorem View.letter_of_negative_size_lacks_font :
    let shown : List (Character Float) := Event.characters (Extraction.events twoSizes {})
    shown.map Character.size = [(-9 : Float), 9] ∧
      ∃ assembly : Assembly Float, Extraction.document twoSizes {} none = some assembly ∧
        let view := View.ofDocument assembly.document [.characters]
        ∃ first second, view.characters? = some [first, second] ∧ first.font? = none ∧
          ∃ character, character.size = (9 : Float) ∧ view.CarriesFont character second := by
  intro shown
  have root : PageTree.root? twoSizes = some ⟨2, 0⟩ := by decide +kernel
  have pages : PageTree.pages twoSizes = [⟨3, 0⟩] :=
    PageTree.pages_of_children root rfl (by decide +kernel) (by decide)
  have sizes : shown.map Character.size = [(-9 : Float), 9] := by
    simp only [shown, Extraction.events, Extraction.trace, pages]
    decide +kernel
  have ends : Extraction.GoesOn (Extraction.trace twoSizes {} : List (Event Float)) := by
    rw [← Extraction.any_isStuck_eq_false_iff]
    simp only [Extraction.trace, pages]
    decide +kernel
  have extracted := Extraction.assembled_of_goesOn ends none none
  have wanted : ElementType.characters ∈ [ElementType.characters] := by decide
  obtain ⟨entries, written, fonts⟩ :=
    View.fonts_are_written_at_positive_sizes twoSizes {} none extracted wanted
  refine ⟨sizes, _, extracted, ?_⟩
  obtain ⟨flipped, others, split, negative, tail⟩ := List.map_eq_cons_iff.mp sizes
  obtain ⟨upright, nothing, rfl, positive, done⟩ := List.map_eq_cons_iff.mp tail
  obtain rfl := List.map_eq_nil_iff.mp done
  have fonts : List.Forall₂ _ shown entries := fonts
  rw [split] at fonts
  cases fonts with
  | @cons _ first _ _ lost rest =>
      cases rest with
      | @cons _ second _ _ kept rest =>
          cases rest
          refine ⟨first, second, written, lost.2.1 ?_, upright, positive, kept.1 ?_⟩
          · rw [negative]
            decide +kernel
          · rw [positive]
            decide +kernel

end PdfElements
