import PdfElements.Proofs.Extraction.Reached
import PdfElements.Proofs.Interpretation.Moments
import PdfElements.Proofs.Page.Tree

/-! The resources that glyph procedures run with: those of their own stream, or else those of the
font, which are found again when a glyph is shown. For a font that is written in place, with its
resources written in place too, there is nothing to find them by. -/

set_option autoImplicit false

namespace PdfElements

variable {K : Type}

/-- The resources of a font, if it has some. -/
def ObjectStore.fontResources? (store : ObjectStore) (font : Located Object) :
    Option (Located Dictionary) :=
  ((store.resolveAt font).as? Object.dictionary?).bind fun entries =>
    store.dictionaryAt? entries "Resources"

def Dictionary.holdsResources (font : Dictionary) : Bool :=
  match font.find? "Resources" with
  | some (.dictionary _) => true
  | _ => false

/-- Whether an object is a font that is held in place, and holds its resources in place. -/
def Object.holdsResources : Object → Bool
  | .dictionary font => Dictionary.holdsResources font
  | _ => false

namespace ObjectStore

theorem as_dictionary_resolveAt (store : ObjectStore) (id : ObjectId) (place : Place) :
    (store.resolveAt ⟨.reference id, place⟩).as? Object.dictionary? =
      (store.dictionaryAt id).toOption := by
  simp only [resolveAt, dictionaryAt]
  cases store.objectAt id with
  | error fault => rfl
  | ok object =>
      obtain ⟨value, place⟩ := object
      cases value <;> rfl

end ObjectStore

variable [Scalar K]

namespace Typeface

theorem glyphProcedures_of_read {store : ObjectStore} {dictionary : Dictionary}
    {id? : Option ObjectId} {name : String} {typeface : Typeface K} {glyphs : GlyphProcedures K}
    (found : read store dictionary id? name = .ok typeface)
    (drawn : typeface.glyphs? = some glyphs) :
    glyphProcedures store dictionary id? = .ok glyphs := by
  unfold read at found
  dsimp only at found
  split at found
  · cases found
    cases drawn
  · split at found
    · obtain ⟨procedures, read, found⟩ := bind_ok found
      cases found
      cases drawn
      exact read
    · cases found
      cases drawn

theorem resources?_of_glyphProcedures {store : ObjectStore} {font : Dictionary}
    {id? : Option ObjectId} {glyphs : GlyphProcedures K}
    (found : glyphProcedures store font id? = .ok glyphs) :
    glyphs.resources? =
      match font.find? "Resources" with
      | some (.reference id) => some (.object id)
      | some (.dictionary _) => id?.map .font
      | _ => none := by
  unfold glyphProcedures at found
  dsimp only at found
  split at found
  · split at found
    · cases found
      rfl
    · cases found
  · cases found

/-- The resources of a font that is read with its number, if it has one, are found again unless
both of them have no number. -/
theorem located_resources {store : ObjectStore} {font : Located Dictionary} {id? : Option ObjectId}
    {glyphs : GlyphProcedures K} (numbered : ∀ id ∈ id?, store.dictionaryAt id = .ok font)
    (found : glyphProcedures store font.value id? = .ok glyphs) :
    (glyphs.resources?.bind fun location => location.dictionary? store) =
      if id?.isNone && font.value.holdsResources then none
      else store.dictionaryAt? font "Resources" := by
  rw [resources?_of_glyphProcedures found]
  unfold ObjectStore.dictionaryAt? ObjectStore.findAt? Dictionary.holdsResources
  have written := font.value_find? "Resources"
  cases listed : font.find? "Resources" with
  | none =>
      rw [listed] at written
      simp [← written]
  | some resources =>
      rw [listed] at written
      obtain ⟨value, place⟩ := resources
      cases value with
      | reference id =>
          simp [← written, ResourceLocation.dictionary?, store.as_dictionary_resolveAt]
      | dictionary entries =>
          -- Resources in place are found by the number of the font, so there must be one.
          cases id? with
          | none => simp [← written]
          | some id =>
              simp [← written, ResourceLocation.dictionary?, numbered id rfl, listed,
                Except.toOption, ObjectStore.resolveAt]
      | _ => simp [← written, ObjectStore.resolveAt, Located.as?, Object.dictionary?]

/-- Where the resources of a font are found again when its glyphs are shown. -/
theorem resources_of_ofObject {store : ObjectStore} {name : String} {object : Located Object}
    {typeface : Typeface K} {glyphs : GlyphProcedures K}
    (found : ofObject store name object.value = .ok typeface)
    (drawn : typeface.glyphs? = some glyphs) :
    (glyphs.resources?.bind fun location => location.dictionary? store) =
      if object.value.holdsResources then none else store.fontResources? object := by
  obtain ⟨value, place⟩ := object
  cases value with
  | reference id =>
      obtain ⟨font, read, found⟩ := bind_ok found
      have listed := ok_of_mapError read
      rw [store.dictionary_eq] at listed
      obtain ⟨there, stored, rfl⟩ := ok_of_map listed
      have located := located_resources (fun other same => Option.mem_some.mp same ▸ stored)
        (glyphProcedures_of_read (ok_of_mapError found) drawn)
      rw [located]
      simp [ObjectStore.fontResources?, store.as_dictionary_resolveAt, stored, Except.toOption,
        Object.holdsResources]
  | dictionary entries =>
      let font : Located Dictionary := ⟨entries, place⟩
      have unnumbered : ∀ id ∈ (none : Option ObjectId), store.dictionaryAt id = .ok font := nofun
      exact located_resources unnumbered (glyphProcedures_of_read (ok_of_mapError found) drawn)
  | _ => cases found

end Typeface

namespace Interpretation

/-- The object of the font that a command selects, by its name or with other parameters. -/
inductive Selects (setting : Setting) (interpreter : Interpreter K) :
    Command K → Located Object → Prop where
  | named {fonts : Located Dictionary} {name : String} {size : K} {object : Located Object} :
      setting.store.dictionaryAt? interpreter.state.resources "Font" = some fonts →
      fonts.find? name = some object → Selects setting interpreter (.font name size) object
  | parameter {name : String} {object : Located Object} {size : K} :
      (surroundings setting).stateFont? interpreter.state.resources name =
        .ok (some (object, size)) → Selects setting interpreter (.graphicsState name) object

theorem ofObject_of_selectFont {setting : Setting} {interpreter : Interpreter K}
    (sound : interpreter.fonts.Sound setting.store Font.unnamed) {name : String} {size : K}
    {object : Located Object} (offered : setting.store.OffersFont name object)
    {typeface : Typeface K}
    (selected : (interpreter.selectFont setting name size object).state.current.text.typeface? =
      some typeface) :
    ∃ afresh, Typeface.ofObject setting.store name object.value = .ok afresh ∧
      afresh.glyphs? = typeface.glyphs? := by
  have loads := sound.load (Typeface.sameUnderNames_unnamed setting.store) offered
  unfold Interpreter.selectFont at selected
  generalize interpreter.fonts.load setting.store name object = loaded at loads selected
  cases read : Typeface.ofObject (K := K) setting.store name object.value with
  | ok afresh =>
      rw [read] at loads
      cases loads with
      | ok same _ =>
          cases selected
          exact ⟨afresh, rfl, reads_of_seen same Typeface.glyphs? fun _ => rfl⟩
  | error fault =>
      rw [read] at loads
      cases loads
      cases selected

theorem ofObject_of_selects {setting : Setting} {interpreter : Interpreter K}
    (supplied : interpreter.Supplied setting.store Font.unnamed) {command : Command K}
    {object : Located Object} (selects : Selects setting interpreter command object)
    {typeface : Typeface K}
    (selected : ((surroundings setting).execute command
      interpreter).interpreter.state.current.text.typeface? = some typeface) :
    ∃ name afresh, Typeface.ofObject setting.store name object.value = .ok afresh ∧
      afresh.glyphs? = typeface.glyphs? := by
  cases selects with
  | named given listed =>
      have found : ((setting.store.dictionaryAt? interpreter.state.resources "Font").bind
          fun fonts => fonts.find? _) = some object :=
        Option.bind_eq_some_iff.mpr ⟨_, given, listed⟩
      simp only [Surroundings.execute, Interpreter.selectNamedFont, surroundings, found] at selected
      exact ⟨_, ofObject_of_selectFont supplied.fonts (.named supplied.resources given listed)
        selected⟩
  | parameter found =>
      have provided : (surroundings (K := K) setting).store.Provides interpreter.state.resources :=
        supplied.resources
      simp only [Surroundings.execute, Surroundings.selectState, found] at selected
      exact ⟨_, ofObject_of_selectFont supplied.fonts
        (Surroundings.offers_of_stateFont? provided found) selected⟩

/-- A glyph procedure of a font that is selected somewhere in a document, and used wherever, runs
with the resources of its own stream, or else with those of the font, or else with those of the
stream that shows the glyph. But if the font and its resources are both held in place, without
numbers, those of the font are passed over. -/
theorem glyph_procedures_have_resources {setting : Setting} {selecting : Interpreter K}
    (reaches : Extraction.Reaches setting selecting) {command : Command K} {object : Located Object}
    (selects : Selects setting selecting command object) {typeface : Typeface K}
    (selected : ((surroundings setting).execute command
      selecting).interpreter.state.current.text.typeface? = some typeface)
    {glyphs : GlyphProcedures K} (drawn : typeface.glyphs? = some glyphs) {showing : Interpreter K}
    {code : Nat} {id : ObjectId} (listed : glyphs.procedure? code = some id)
    {procedure : Located Stream} {content : List UInt8}
    (found : (surroundings setting (K := K)).glyphContent id showing.state.depth =
      .ok (procedure, content)) (rendering : Matrix K) :
    ∃ start, (surroundings setting).glyphRun? glyphs code rendering showing =
        some ⟨.glyph, content, start⟩ ∧
      start.state.resources =
        ((setting.store.dictionaryAt? procedure.entries "Resources").or
          (if object.value.holdsResources then none else setting.store.fontResources? object)).getD
            showing.state.resources := by
  have supplied := reaches.supplied (Typeface.sameUnderNames_unnamed setting.store)
  obtain ⟨name, afresh, read, same⟩ := ofObject_of_selects supplied selects selected
  have begins : (surroundings setting).glyphRun? glyphs code rendering showing = some ⟨.glyph,
      content, showing.modify ((surroundings setting).glyphState glyphs procedure rendering)⟩ := by
    simp only [Surroundings.glyphRun?, listed, found]
  refine ⟨_, begins, ?_⟩
  rw [← Typeface.resources_of_ofObject read (same.trans drawn)]
  rfl

/-- A font that draws the letter A by a procedure, with resources that hold a form. -/
def formLetterFont : Dictionary :=
  let key := Text.encodeUtf8
  [(key "Subtype", .name (key "Type3")),
    (key "FontMatrix", .array [.integer 1, .integer 0, .integer 0, .integer 1, .integer 0,
      .integer 0]),
    (key "CharProcs", .dictionary [(key "a", .reference ⟨5, 0⟩)]),
    (key "Encoding", .dictionary [(key "Differences", .array [.integer 65, .name (key "a")])]),
    (key "Resources", .dictionary [(key "XObject", .dictionary [(key "X", .reference ⟨6, 0⟩)])])]

def formLetter : ObjectStore :=
  let key := Text.encodeUtf8
  let fonts : Object := .dictionary [(key "T", .dictionary formLetterFont)]
  { objects := [
      (⟨1, 0⟩, .dictionary [(key "Pages", .reference ⟨2, 0⟩)]),
      (⟨2, 0⟩, .dictionary [(key "Kids", .array [.reference ⟨3, 0⟩])]),
      (⟨3, 0⟩, .dictionary [(key "Type", .name (key "Page")),
        (key "Resources", .dictionary [(key "Font", fonts)]), (key "Contents", .reference ⟨4, 0⟩)]),
      (⟨4, 0⟩, .stream [] (key "BT /T 1 Tf (A) Tj ET")),
      (⟨5, 0⟩, .stream [] (key "/X Do")),
      (⟨6, 0⟩, .stream [(key "Subtype", .name (key "Form"))] (key "0 0 1 1 re f"))]
    trailer := [(key "Root", .reference ⟨1, 0⟩)] }

private theorem pages_formLetter : PageTree.pages formLetter = [⟨3, 0⟩] := by
  have root : PageTree.root? formLetter = some ⟨2, 0⟩ := by decide +kernel
  exact PageTree.pages_of_children root rfl (by decide +kernel) (by decide)

/-- The procedure runs with the resources of the page, and not with those of its font. -/
theorem form_letter_has_resources_of_page :
    let setting : Setting := ⟨formLetter, {}⟩
    let page : Interpreter Float := Interpreter.start.openPage setting 1 ⟨3, 0⟩
    let place : Place := .entry (.entry (.entry (.object ⟨3, 0⟩) (Text.encodeUtf8 "Resources"))
      (Text.encodeUtf8 "Font")) (Text.encodeUtf8 "T")
    (formLetter.fontResources? ⟨.dictionary formLetterFont, place⟩).isSome ∧
      ∃ glyphs start, (surroundings setting).glyphRun? glyphs 65 .identity page =
          some ⟨.glyph, Text.encodeUtf8 "/X Do", start⟩ ∧
        start.state.resources = page.state.resources := by
  intro setting page place
  have reaches : Extraction.Reaches setting page :=
    ⟨[], ⟨3, 0⟩, [], [], pages_formLetter, rfl, .refl _ _ _⟩
  obtain ⟨fonts, given, listed⟩ : ∃ fonts,
      setting.store.dictionaryAt? page.state.resources "Font" = some fonts ∧
        fonts.find? "T" = some ⟨.dictionary formLetterFont, place⟩ := ⟨_, rfl, rfl⟩
  have selects : Selects setting page (.font "T" (Scalar.ofInt 1))
      ⟨.dictionary formLetterFont, place⟩ := .named given listed
  obtain ⟨typeface, selected, glyphs, drawn, listed⟩ : ∃ typeface,
      ((surroundings setting).execute (.font "T" (Scalar.ofInt 1))
        page).interpreter.state.current.text.typeface? = some typeface ∧
      ∃ glyphs, typeface.glyphs? = some glyphs ∧ glyphs.procedure? 65 = some ⟨5, 0⟩ :=
    ⟨_, rfl, _, rfl, rfl⟩
  have found : (surroundings setting (K := Float)).glyphContent ⟨5, 0⟩ page.state.depth =
      .ok (⟨⟨[], Text.encodeUtf8 "/X Do"⟩, .object ⟨5, 0⟩⟩, Text.encodeUtf8 "/X Do") := rfl
  obtain ⟨start, begins, resources⟩ :=
    glyph_procedures_have_resources reaches selects selected drawn listed found .identity
  exact ⟨rfl, glyphs, start, begins, resources⟩

end Interpretation

end PdfElements
