import PdfElements.Proofs.Interpretation.Rendition

/-! Fonts that were read before. The name under which a font is selected tells no more than how a
font is called that has no name of its own, so that what was read before makes no other difference,
and none when no such font is selected under two names. -/

set_option autoImplicit false

namespace PdfElements

variable {K : Type}

/-- A font that has a number has a name of its own, or it is selected under no more than one. -/
def ObjectStore.NamesFontsOnce (store : ObjectStore) : Prop :=
  ∀ id font name other, store.GivesFontAs name (.reference id) →
    store.GivesFontAs other (.reference id) → store.dictionary id = .ok font →
    (∃ base, font.find? "BaseFont" = some (.name base)) ∨ name = other

/-- A font without its name and what that tells of its style. -/
def Font.unnamed (font : Font) : Font := { Font.ofBaseName "" with type3 := font.type3 }

/-- An event behind so many glyphs. -/
def Event.behind (glyphs : Nat) : Event K → Event K
  | .character shown => .character { shown with rank := shown.rank + glyphs }
  | event => event

@[simp] theorem Event.page?_behind (glyphs : Nat) (event : Event K) :
    (event.behind glyphs).page? = event.page? := by
  cases event <;> rfl

theorem Event.isStuck_behind (glyphs : Nat) (event : Event K) :
    (event.behind glyphs).isStuck = event.isStuck := by
  cases event <;> rfl

variable [Scalar K]

namespace Typeface

def ofObject (store : ObjectStore) (name : String) : Object → Except SelectionFault (Typeface K)
  | .reference id => do
    let dictionary ← (store.dictionary id).mapError .object
    (read store dictionary (some id) name).mapError .font
  | .dictionary dictionary => (read store dictionary none name).mapError .font
  | object => .error (.font (.notDictionary object))

/-- What is looked at of the fonts of a document is the same under all names under which they are
selected. -/
def SameUnderNames (K : Type) [Scalar K] (store : ObjectStore) (look : Font → Font) : Prop :=
  ∀ id name other, store.GivesFontAs name (.reference id) →
    store.GivesFontAs other (.reference id) →
    (ofObject (K := K) store name (.reference id)).map (seen look) =
      (ofObject store other (.reference id)).map (seen look)

theorem read_unnamed (store : ObjectStore) (dictionary : Dictionary) (id? : Option ObjectId)
    (name other : String) :
    (read (K := K) store dictionary id? name).map (seen Font.unnamed) =
      (read store dictionary id? other).map (seen Font.unnamed) := by
  unfold read
  dsimp only
  split
  · rfl
  · split
    · cases glyphProcedures (K := K) store dictionary id? <;> rfl
    · rfl

theorem read_eq_of_named {store : ObjectStore} {dictionary : Dictionary} {base : List UInt8}
    (named : dictionary.find? "BaseFont" = some (.name base)) (id? : Option ObjectId)
    (name other : String) :
    read (K := K) store dictionary id? name = read store dictionary id? other := by
  unfold read
  simp only [named, Option.bind_some, Object.name?]

theorem sameUnderNames_unnamed (store : ObjectStore) : SameUnderNames K store Font.unnamed := by
  intro id name other _ _
  unfold ofObject
  dsimp only
  cases store.dictionary id with
  | error fault => rfl
  | ok dictionary =>
      have same := read_unnamed (K := K) store dictionary (some id) name other
      simp only [Except.mapError, bind, Except.bind]
      cases first : read (K := K) store dictionary (some id) name <;>
        cases second : read (K := K) store dictionary (some id) other <;>
        simp_all [Except.map]

theorem sameUnderNames_of_once {store : ObjectStore} (once : store.NamesFontsOnce) :
    SameUnderNames K store id := by
  intro id name other given givenAgain
  unfold ofObject
  dsimp only
  cases found : store.dictionary id with
  | error fault => rfl
  | ok dictionary =>
      rcases once id dictionary name other given givenAgain found with ⟨base, named⟩ | rfl
      · simp only [Except.mapError, bind, Except.bind, read_eq_of_named named (some id) name other]
      · rfl

end Typeface

open Typeface

def Located.fontKey (object : Located Object) : FontKey :=
  match object.value with
  | .reference id => .number id
  | _ => .place object.place

omit [Scalar K] in
/-- Fonts that are kept under the same key have the same number or the same place. -/
theorem Located.same_of_fontKey {object other : Located Object}
    (same : other.fontKey = object.fontKey) :
    (∃ id, object.value = .reference id ∧ other.value = .reference id) ∨
      other.place = object.place := by
  obtain ⟨value, place⟩ := object
  obtain ⟨otherValue, otherPlace⟩ := other
  cases value <;> cases otherValue <;> cases same
  case reference.reference id => exact .inl ⟨id, rfl, rfl⟩
  all_goals exact .inr rfl

namespace Typeface

variable {store : ObjectStore} {look : Font → Font} {name other : String}
  {object otherObject : Located Object}

theorem ofObject_eq (store : ObjectStore) (name : String) (object : Located Object) :
    ofObject (K := K) store name object.value =
      FontSource.ofObject store object >>= fun source =>
        (read store source.dictionary source.id? name).mapError .font := by
  obtain ⟨value, place⟩ := object
  cases value with
  | reference id =>
      simp only [ofObject, FontSource.ofObject, bind, Except.bind]
      cases (store.dictionary id).mapError SelectionFault.object <;> rfl
  | _ => rfl

/-- What is kept under a key looks the same whenever a document offers it. -/
theorem seen_eq_of_fontKey (same : SameUnderNames K store look)
    (offered : store.OffersFont name object) (again : store.OffersFont other otherObject)
    (key : otherObject.fontKey = object.fontKey) :
    (ofObject (K := K) store other otherObject.value).map (seen look) =
      (ofObject store name object.value).map (seen look) := by
  rcases Located.same_of_fontKey key with ⟨id, reference, otherReference⟩ | place
  · have gives := offered.gives
    have givesAgain := again.gives
    rw [reference] at gives ⊢
    rw [otherReference] at givesAgain ⊢
    exact same id other name givesAgain gives
  · rw [again.name_eq offered place, again.has.value_eq offered.has place]

end Typeface

namespace FontCache

/-- Fonts that look like what would be read again, whenever a document offers what they are kept
under. -/
def Sound (store : ObjectStore) (look : Font → Font) (fonts : FontCache K) : Prop :=
  ∀ name object typeface, store.OffersFont name object →
    fonts.lookup object.fontKey = some typeface →
    (ofObject store name object.value).map (seen look) = .ok (typeface.seen look)

theorem sound_nil (store : ObjectStore) (look : Font → Font) :
    Sound store look ([] : FontCache K) := by
  intro name object typeface offered listed
  cases listed

variable {store : ObjectStore} {look : Font → Font} {fonts otherFonts : FontCache K}
  {name : String} {object : Located Object}

theorem Sound.cons (sound : Sound store look fonts) (same : SameUnderNames K store look)
    {typeface : Typeface K} (offered : store.OffersFont name object)
    (read : ofObject store name object.value = .ok typeface) :
    Sound store look ((object.fontKey, typeface) :: fonts) := by
  intro other otherObject cached again listed
  rw [List.lookup_cons] at listed
  split at listed
  · next found =>
      cases listed
      rw [seen_eq_of_fontKey same offered again (eq_of_beq found), read]
      rfl
  · exact sound other otherObject cached again listed

omit [Scalar K] in
private theorem key_of_source {source : FontSource}
    (found : FontSource.ofObject store object = .ok source) : source.key = object.fontKey := by
  obtain ⟨value, place⟩ := object
  cases value with
  | reference id =>
      obtain ⟨dictionary, _, found⟩ := bind_ok found
      cases found
      rfl
  | dictionary entries =>
      cases found
      rfl
  | _ => cases found

theorem load_of_unread (unread : fonts.lookup object.fontKey = none) :
    fonts.load store name object =
      (ofObject store name object.value).map fun typeface =>
        (typeface, (object.fontKey, typeface) :: fonts) := by
  rw [ofObject_eq]
  unfold FontCache.load
  cases found : FontSource.ofObject store object with
  | error fault => rfl
  | ok source =>
      simp only [bind, Except.bind, key_of_source found, unread]
      cases (Typeface.read (K := K) store source.dictionary source.id? name).mapError
        SelectionFault.font <;> rfl

theorem load_of_kept {kept typeface : Typeface K}
    (cached : fonts.lookup object.fontKey = some kept)
    (read : ofObject store name object.value = .ok typeface) :
    fonts.load store name object = .ok (kept, fonts) := by
  rw [ofObject_eq] at read
  obtain ⟨source, found, _⟩ := bind_ok read
  simp only [FontCache.load, found, bind, Except.bind, key_of_source found, cached]
  rfl

theorem load_nil (store : ObjectStore) (name : String) (object : Located Object) :
    (FontCache.load (K := K) [] store name object).map Prod.fst =
      ofObject store name object.value := by
  rw [load_of_unread rfl]
  cases ofObject (K := K) store name object.value <;> rfl

/-- What is loaded looks like what is read afresh, whatever was read before. -/
theorem Sound.load (sound : Sound store look fonts) (same : SameUnderNames K store look)
    (offered : store.OffersFont name object) :
    LoadsAlike look (fun next _ => Sound store look next) (fonts.load store name object)
      ((ofObject store name object.value).map fun typeface => (typeface, [])) := by
  cases cached : fonts.lookup object.fontKey with
  | some kept =>
      obtain ⟨typeface, read, looks⟩ := ok_of_map (sound name object kept offered cached)
      rw [load_of_kept cached read, read]
      exact .ok looks sound
  | none =>
      rw [load_of_unread cached]
      cases read : ofObject (K := K) store name object.value with
      | ok typeface => exact .ok rfl (sound.cons same offered read)
      | error fault => exact .error fault

theorem Sound.loadsAlike (same : SameUnderNames K store look)
    (offered : store.OffersFont name object) (sound : Sound store look fonts)
    (otherSound : Sound store look otherFonts) :
    LoadsAlike look (fun first second => Sound store look first ∧ Sound store look second)
      (fonts.load store name object) (otherFonts.load store name object) := by
  have loads := sound.load same offered
  have otherLoads := otherSound.load same offered
  generalize fonts.load store name object = loaded at loads ⊢
  generalize otherFonts.load store name object = otherLoaded at otherLoads ⊢
  cases read : ofObject (K := K) store name object.value with
  | ok typeface =>
      rw [read] at loads otherLoads
      cases loads with
      | ok looks next =>
          cases otherLoads with
          | ok otherLooks otherNext => exact .ok (otherLooks.symm.trans looks) ⟨next, otherNext⟩
  | error fault =>
      rw [read] at loads otherLoads
      cases loads
      cases otherLoads
      exact .error fault

end FontCache

/-- The same run behind so many glyphs and with other fonts read before. -/
def Rendition.later (store : ObjectStore) (options : ExtractionOptions) {look : Font → Font}
    (same : SameUnderNames K store look) (glyphs : Nat) : Rendition K store options options where
  look := look
  event? event := some ((event.behind glyphs).seen look)
  shift := glyphs
  agree fonts otherFonts := fonts.Sound store look ∧ FontCache.Sound store look otherFonts
  depthLimit := rfl
  load offered _ _ agree := FontCache.Sound.loadsAlike same offered agree.1 agree.2
  warning problem := by
    cases options.collectWarnings <;> rfl
  character _ := rfl
  figure _ := rfl
  shape _ := rfl
  pageStart _ _ _ := rfl
  pageEnd _ := rfl
  stuck _ := rfl

/-- What the later run reports, as far as fonts are looked at. -/
theorem Rendition.filterMap_later {store : ObjectStore} {options : ExtractionOptions}
    {look : Font → Font} (same : SameUnderNames K store look) (glyphs : Nat)
    (found : List (Event K)) :
    found.filterMap (later store options same glyphs).event? =
      (found.map (Event.behind glyphs)).map (Event.seen look) := by
  rw [List.map_map, ← List.filterMap_eq_map]
  rfl

end PdfElements
