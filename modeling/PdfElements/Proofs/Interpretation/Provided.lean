import PdfElements.Extraction
import PdfElements.Proofs.Object.Located
import PdfElements.Proofs.Text.Utf8

/-! What a document provides to the interpretation of its content: the resources of pages, forms
and glyph procedures, the streams and the fonts that they name. The document has all of it at its
place. -/

set_option autoImplicit false

namespace PdfElements

variable {K : Type}

namespace ObjectStore

/-- Resources that content may be interpreted with: those that the document has at their place, or
none. -/
def Provides (store : ObjectStore) (resources : Located Dictionary) : Prop :=
  store.Has (resources.map .dictionary)

/-- What a document gives as a font, in resources or in a set of parameters that they name. -/
inductive GivesFont (store : ObjectStore) : Object → Prop where
  | named {resources fonts : Dictionary} {name : String} {font : Object} :
      store.Holds (.dictionary resources) → store.dictionary? resources "Font" = some fonts →
      fonts.find? name = some font → GivesFont store font
  | parameter {resources states state : Dictionary} {name : String} {font size : Object} :
      store.Holds (.dictionary resources) →
      store.dictionary? resources "ExtGState" = some states →
      store.dictionary? states name = some state →
      store.array? state "Font" = some [font, size] → GivesFont store font

inductive GivesFontAs (store : ObjectStore) : String → Object → Prop where
  | named {resources fonts : Dictionary} {name : String} {font : Object} :
      store.Holds (.dictionary resources) → store.dictionary? resources "Font" = some fonts →
      fonts.find? name = some font → GivesFontAs store name font
  | parameter {resources states state : Dictionary} {name : String} {font size : Object} :
      store.Holds (.dictionary resources) →
      store.dictionary? resources "ExtGState" = some states →
      store.dictionary? states name = some state →
      store.array? state "Font" = some [font, size] → GivesFontAs store font.fontName font

/-- How content comes by a font and its name, with the places on the way. -/
inductive OffersFont (store : ObjectStore) : String → Located Object → Prop where
  | named {resources fonts : Located Dictionary} {name : String} {font : Located Object} :
      store.Provides resources → store.dictionaryAt? resources "Font" = some fonts →
      fonts.find? name = some font → OffersFont store name font
  | parameter {resources states state : Located Dictionary} {name : String} {font size : Object}
      {place : Place} :
      store.Provides resources → store.dictionaryAt? resources "ExtGState" = some states →
      store.dictionaryAt? states name = some state →
      store.arrayAt? state "Font" = some ⟨[font, size], place⟩ →
      OffersFont store font.fontName ⟨font, .item place 0⟩

variable {store : ObjectStore} {resources inner : Located Dictionary} {key : String}

theorem GivesFontAs.gives {name : String} {font : Object} (given : store.GivesFontAs name font) :
    store.GivesFont font := by
  cases given with
  | named held listed member => exact .named held listed member
  | parameter held listed member array => exact .parameter held listed member array

theorem provides_nothing (store : ObjectStore) : store.Provides .nothing := rfl

theorem Provides.dictionaryAt? (provided : store.Provides resources)
    (found : store.dictionaryAt? resources key = some inner) : store.Provides inner :=
  HasEntries.dictionaryAt? (Has.dictionary provided) found

private theorem dictionary?_of_dictionaryAt?
    (found : store.dictionaryAt? resources key = some inner) :
    store.dictionary? resources.value key = some inner.value := by
  rw [← store.value_dictionaryAt?, found]
  rfl

private theorem Provides.holds (provided : store.Provides resources)
    (found : store.dictionaryAt? resources key = some inner) :
    store.Holds (.dictionary resources.value) := by
  rcases holds_of_at? provided with nothing | held
  · have empty : resources.value = [] := Object.dictionary.inj nothing
    have missing := dictionary?_of_dictionaryAt? found
    rw [empty] at missing
    cases missing
  · exact held

namespace OffersFont

variable {name other : String} {font otherFont : Located Object}

theorem has (offered : store.OffersFont name font) : store.Has font := by
  cases offered with
  | named provided listed member => exact (provided.dictionaryAt? listed).dictionary.find? member
  | parameter provided listed member array =>
      have states := (provided.dictionaryAt? listed).dictionaryAt? member
      exact (states.dictionary.arrayAt? array).item rfl

theorem gives (offered : store.OffersFont name font) : store.GivesFontAs name font.value := by
  cases offered with
  | named provided listed member =>
      refine .named (provided.holds listed) (dictionary?_of_dictionaryAt? listed) ?_
      rw [← Located.value_find?, member]
      rfl
  | @parameter _ _ state _ _ _ _ provided listed member array =>
      have items := store.value_arrayAt? state "Font"
      rw [array] at items
      exact .parameter (provided.holds listed) (dictionary?_of_dictionaryAt? listed)
        (dictionary?_of_dictionaryAt? member) items.symm

/-- The place of a font tells under which name it is selected. -/
theorem name_eq (offered : store.OffersFont name font) (again : store.OffersFont other otherFont)
    (same : font.place = otherFont.place) : name = other := by
  have value := offered.has.value_eq again.has same
  cases offered with
  | named _ _ member =>
      obtain ⟨_, _, rfl⟩ := Option.map_eq_some_iff.mp member
      cases again with
      | named _ _ memberAgain =>
          obtain ⟨_, _, rfl⟩ := Option.map_eq_some_iff.mp memberAgain
          injection same with _ keys
          rw [← Text.decodeUtf8_encodeUtf8 name, keys, Text.decodeUtf8_encodeUtf8]
      | parameter => cases same
  | parameter =>
      cases again with
      | named _ _ memberAgain =>
          obtain ⟨_, _, rfl⟩ := Option.map_eq_some_iff.mp memberAgain
          cases same
      | parameter => exact congrArg Object.fontName value

end OffersFont

theorem provides_of_dictionaryAt {id : ObjectId}
    (found : (store.dictionaryAt id).toOption = some resources) : store.Provides resources :=
  has_of_dictionaryAt (ok_of_toOption found)

theorem provides_location {location : ResourceLocation}
    (found : location.dictionary? store = some resources) : store.Provides resources := by
  cases location with
  | object id => exact provides_of_dictionaryAt found
  | font id =>
      obtain ⟨font, read, found⟩ := Option.bind_eq_some_iff.mp found
      obtain ⟨object, listed, taken⟩ := Option.bind_eq_some_iff.mp found
      have has := (provides_of_dictionaryAt read).dictionary.find? listed
      exact has.as? Object.dictionary_of_dictionary? taken

end ObjectStore

open ObjectStore

namespace Surroundings

variable {surroundings : Surroundings K} {resources : Located Dictionary} {name : String}

theorem has_of_glyphContent {id : ObjectId} {depth : Nat} {found : Located Stream × List UInt8}
    (read : surroundings.glyphContent id depth = .ok found) :
    surroundings.store.Has (found.1.map Stream.object) := by
  unfold glyphContent at read
  obtain ⟨_, _, read⟩ := bind_ok read
  obtain ⟨object, stored, read⟩ := bind_ok read
  obtain ⟨procedure, streamed, read⟩ := bind_ok read
  obtain ⟨_, _, read⟩ := bind_ok read
  cases read
  have taken := Object.some_of_expect (ok_of_mapError streamed)
  exact (has_of_objectAt (ok_of_mapError stored)).of_taken Object.object_of_stream? taken

theorem has_of_external? (provided : surroundings.store.Provides resources)
    {stream : Located Stream} (found : surroundings.external? resources name = .ok stream) :
    surroundings.store.Has (stream.map Stream.object) := by
  unfold external? at found
  dsimp only at found
  split at found
  · next object listed =>
      obtain ⟨objects, given, member⟩ := Option.bind_eq_some_iff.mp listed
      have has := ((provided.dictionaryAt? given).dictionary.find? member).resolveAt
      split at found
      · next streamed =>
          cases found
          exact has.as? Object.object_of_stream? streamed
      · cases found
  · cases found

theorem offers_of_named (provided : surroundings.store.Provides resources) {font : Located Object}
    (found : ((surroundings.store.dictionaryAt? resources "Font").bind fun fonts =>
      fonts.find? name) = some font) : surroundings.store.OffersFont name font := by
  obtain ⟨fonts, listed, member⟩ := Option.bind_eq_some_iff.mp found
  exact .named provided listed member

variable [Scalar K]

theorem offers_of_stateFont? (provided : surroundings.store.Provides resources)
    {font : Located Object × K}
    (found : surroundings.stateFont? resources name = .ok (some font)) :
    surroundings.store.OffersFont font.1.value.fontName font.1 := by
  unfold stateFont? at found
  dsimp only at found
  split at found
  · next state listed =>
      obtain ⟨states, given, member⟩ := Option.bind_eq_some_iff.mp listed
      split at found
      · cases found
      · next array =>
          split at found
          · cases found
            exact .parameter provided given member array
          · cases found
      · cases found
  · cases found

theorem provides_formState (surroundings : Surroundings K) {form : Located Stream}
    (has : surroundings.store.Has (form.map Stream.object)) {state : StreamState K}
    (page : surroundings.store.Provides state.pageResources) :
    surroundings.store.Provides (surroundings.formState form state).resources := by
  have provided : surroundings.store.Provides
      ((surroundings.store.dictionaryAt? form.entries "Resources").getD state.pageResources) := by
    cases own : surroundings.store.dictionaryAt? form.entries "Resources" with
    | none => exact page
    | some resources => exact has.entries.dictionaryAt? own
  exact provided

theorem provides_glyphState (surroundings : Surroundings K) {procedure : Located Stream}
    (has : surroundings.store.Has (procedure.map Stream.object)) (glyphs : GlyphProcedures K)
    (rendering : Matrix K) {state : StreamState K}
    (current : surroundings.store.Provides state.resources) :
    surroundings.store.Provides
      (surroundings.glyphState glyphs procedure rendering state).resources := by
  have provided : surroundings.store.Provides
      (((surroundings.store.dictionaryAt? procedure.entries "Resources").or
        (glyphs.resources?.bind fun location => location.dictionary? surroundings.store)).getD
          state.resources) := by
    cases own : surroundings.store.dictionaryAt? procedure.entries "Resources" with
    | some resources => exact has.entries.dictionaryAt? own
    | none =>
        cases font : glyphs.resources?.bind fun location =>
            location.dictionary? surroundings.store with
        | none => exact current
        | some resources =>
            obtain ⟨location, _, found⟩ := Option.bind_eq_some_iff.mp font
            exact provides_location found
  exact provided

end Surroundings

theorem PageTree.has_inheritedAt {store : ObjectStore} {key : String} {nodes : Nat} {id : ObjectId}
    {object : Located Object} (found : inheritedAt store key nodes id = .ok (some object)) :
    store.Has object := by
  induction nodes generalizing id with
  | zero => cases found
  | succ nodes ih =>
      simp only [inheritedAt] at found
      obtain ⟨node, read, found⟩ := bind_ok found
      split at found
      · next written =>
          cases found
          exact (has_of_dictionaryAt (ok_of_mapError read)).dictionary.find? written
      · cases found
      · obtain ⟨parent, _, found⟩ := bind_ok found
        exact ih found

namespace PageSource

theorem provides_pageResources {store : ObjectStore} {found? : Option (Located Object)}
    (has : ∀ object, found? = some object → store.Has object) :
    store.Provides (pageResources store found?).1 := by
  unfold pageResources
  cases found? with
  | none => exact store.provides_nothing
  | some object =>
      dsimp only
      split
      · next taken => exact (has object rfl).resolveAt.as? Object.dictionary_of_dictionary? taken
      · exact store.provides_nothing

variable [Scalar K]

theorem provides_read {store : ObjectStore} {page : ObjectId} {source : PageSource K}
    (read : PageSource.read store page = .ok source) : store.Provides source.resources := by
  unfold PageSource.read at read
  dsimp only at read
  split at read
  · next found? inherited =>
      split at read
      · cases read
        refine provides_pageResources ?_
        rintro object rfl
        exact PageTree.has_inheritedAt inherited
      · cases read
  · cases read

end PageSource

theorem Interpreter.provides_readPage [Scalar K] (setting : Setting) (id : ObjectId) :
    setting.store.Provides (readPage (K := K) setting id).1.resources := by
  unfold readPage
  cases read : PageSource.read (K := K) setting.store id with
  | ok source => exact PageSource.provides_read read
  | error failure => exact setting.store.provides_nothing

end PdfElements
