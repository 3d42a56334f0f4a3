import PdfElements.Object.Place
import PdfElements.Proofs.Object.Inside
import PdfElements.Proofs.Result

/-! What is found with its place is what is found without it, and it is what a document has
there. -/

set_option autoImplicit false

namespace PdfElements

/-! ### Finding without places -/

namespace Located

variable {α β : Type}

def map (change : α → β) (located : Located α) : Located β := ⟨change located.value, located.place⟩

@[simp] theorem value_as? (located : Located α) (take : α → Option β) :
    (located.as? take).map value = take located.value := by
  unfold as?
  cases take located.value <;> rfl

@[simp] theorem value_get? (dictionary : Located Dictionary) (key : List UInt8) :
    (dictionary.get? key).map value = dictionary.value.get? key := by
  unfold get?
  cases dictionary.value.get? key <;> rfl

@[simp] theorem value_find? (dictionary : Located Dictionary) (key : String) :
    (dictionary.find? key).map value = dictionary.value.find? key :=
  dictionary.value_get? _

end Located

namespace ObjectStore

variable {store : ObjectStore}

theorem object_eq (store : ObjectStore) (id : ObjectId) :
    store.object id = (store.objectAt id).map Located.value := by
  unfold objectAt
  cases store.object id <;> rfl

theorem dictionary_eq (store : ObjectStore) (id : ObjectId) :
    store.dictionary id = (store.dictionaryAt id).map Located.value := by
  unfold ObjectStore.dictionary dictionaryAt objectAt
  cases store.object id with
  | error fault => rfl
  | ok object => cases object <;> rfl

@[simp] theorem value_resolveAt (store : ObjectStore) (object : Located Object) :
    (store.resolveAt object).value = store.resolve object.value := by
  obtain ⟨value, place⟩ := object
  cases value with
  | reference target =>
      simp only [resolveAt, resolve, object_eq store target]
      cases store.objectAt target <;> rfl
  | _ => rfl

@[simp] theorem value_findAt? (store : ObjectStore) (dictionary : Located Dictionary)
    (key : String) :
    (store.findAt? dictionary key).map Located.value = store.find? dictionary.value key := by
  rw [findAt?, find?, ← Located.value_find?, Option.map_map, Option.map_map]
  exact congrArg (Option.map · _) (funext store.value_resolveAt)

private theorem value_bind_as? {α : Type} (found? : Option (Located Object))
    (take : Object → Option α) :
    (found?.bind fun object => object.as? take).map Located.value =
      (found?.map Located.value).bind take := by
  cases found? with
  | none => rfl
  | some object => exact object.value_as? take

@[simp] theorem value_dictionaryAt? (store : ObjectStore) (dictionary : Located Dictionary)
    (key : String) :
    (store.dictionaryAt? dictionary key).map Located.value =
      store.dictionary? dictionary.value key := by
  rw [dictionaryAt?, value_bind_as?, value_findAt?, dictionary?]

@[simp] theorem value_arrayAt? (store : ObjectStore) (dictionary : Located Dictionary)
    (key : String) :
    (store.arrayAt? dictionary key).map Located.value = store.array? dictionary.value key := by
  rw [arrayAt?, value_bind_as?, value_findAt?, array?]

end ObjectStore

/-! ### What a document has at a place -/

/-- What is around an entry: a dictionary, or a stream with one. -/
def Object.entries? : Object → Option Dictionary
  | .dictionary entries => some entries
  | .stream entries _ => some entries
  | _ => none

def Stream.object (stream : Stream) : Object := .stream stream.entries stream.data

theorem Object.dictionary_of_dictionary? {value : Object} {entries : Dictionary}
    (taken : value.dictionary? = some entries) : .dictionary entries = value := by
  cases value <;> cases taken
  rfl

theorem Object.array_of_array? {value : Object} {items : List Object}
    (taken : value.array? = some items) : .array items = value := by
  cases value <;> cases taken
  rfl

theorem Object.object_of_stream? {value : Object} {stream : Stream}
    (taken : value.stream? = some stream) : stream.object = value := by
  cases value <;> cases taken
  rfl

namespace ObjectStore

def at? (store : ObjectStore) : Place → Option Object
  | .object id => store.entry? id
  | .entry around key => do (← (← store.at? around).entries?).get? key
  | .item around index => do (← (← store.at? around).array?)[index]?
  | .outside => some (.dictionary [])

/-- A document has an object at its place. -/
def Has (store : ObjectStore) (object : Located Object) : Prop :=
  store.at? object.place = some object.value

variable {store : ObjectStore}

theorem Has.value_eq {object other : Located Object} (has : store.Has object)
    (hasOther : store.Has other) (same : object.place = other.place) :
    object.value = other.value :=
  Option.some.inj (has.symm.trans ((congrArg store.at? same).trans hasOther))

private theorem mem_children {object value : Object} {entries : Dictionary} {key : List UInt8}
    (around : object.entries? = some entries) (found : entries.get? key = some value) :
    value ∈ object.children := by
  cases object with
  | dictionary _ =>
      cases around
      exact Dictionary.mem_of_get? found
  | stream _ _ =>
      cases around
      exact Dictionary.mem_of_get? found
  | _ => cases around

private theorem holds_of_entry {id : ObjectId} {object : Object}
    (found : store.entry? id = some object) : store.Holds object := by
  obtain ⟨entry, listed, rfl⟩ := Option.map_eq_some_iff.mp found
  exact ⟨entry, List.mem_of_find?_eq_some listed, .refl⟩

/-- What is at a place is written in the document, but for the resources of those who have none. -/
theorem holds_of_at? {place : Place} {object : Object} (found : store.at? place = some object) :
    object = .dictionary [] ∨ store.Holds object := by
  induction place generalizing object with
  | object id => exact .inr (holds_of_entry found)
  | entry around key ih =>
      obtain ⟨outer, stands, found⟩ := Option.bind_eq_some_iff.mp found
      obtain ⟨entries, written, found⟩ := Option.bind_eq_some_iff.mp found
      rcases ih stands with rfl | held
      · cases written
        cases found
      · exact .inr (held.child (mem_children written found))
  | item around index ih =>
      obtain ⟨outer, stands, found⟩ := Option.bind_eq_some_iff.mp found
      obtain ⟨items, written, found⟩ := Option.bind_eq_some_iff.mp found
      rcases ih stands with rfl | held
      · cases written
      · cases outer with
        | array _ =>
            cases written
            exact .inr (held.child (List.mem_of_getElem? found))
        | _ => cases written
  | outside =>
      cases found
      exact .inl rfl

private theorem entry?_chainEnd {hops : Nat} {id : ObjectId} {first object : Object}
    (begins : store.entry? id = some first) (followed : store.follow hops first = .ok object) :
    store.entry? (store.chainEnd (hops + 1) id) = some object := by
  induction hops generalizing id first with
  | zero =>
      cases first with
      | reference target =>
          simp only [follow] at followed
          split at followed <;> cases followed
      | _ =>
          cases followed
          simp only [chainEnd, begins]
  | succ hops ih =>
      cases first with
      | reference target =>
          simp only [follow] at followed
          rw [chainEnd, begins]
          split at followed
          · cases followed
          · next found => exact ih found followed
      | _ =>
          cases followed
          rw [chainEnd, begins]
          exact begins

theorem has_of_objectAt {id : ObjectId} {object : Located Object}
    (found : store.objectAt id = .ok object) : store.Has object := by
  obtain ⟨value, read, same⟩ := bind_ok found
  cases same
  unfold ObjectStore.object at read
  cases begins : store.entry? id with
  | none =>
      rw [begins] at read
      cases read
  | some first =>
      rw [begins] at read
      exact entry?_chainEnd begins read

theorem Has.of_taken {α : Type} {take : Object → Option α} {make : α → Object}
    {object : Located Object} {part : α} (has : store.Has object)
    (undoes : ∀ {value : Object} {part : α}, take value = some part → make part = value)
    (taken : take object.value = some part) :
    store.Has (Located.map make ⟨part, object.place⟩) :=
  has.trans (congrArg some (undoes taken).symm)

theorem has_of_dictionaryAt {id : ObjectId} {dictionary : Located Dictionary}
    (found : store.dictionaryAt id = .ok dictionary) :
    store.Has (dictionary.map .dictionary) := by
  obtain ⟨object, read, found⟩ := bind_ok found
  obtain ⟨entries, taken, same⟩ := bind_ok found
  cases same
  exact (has_of_objectAt read).of_taken Object.dictionary_of_dictionary?
    (Object.some_of_expect taken)

theorem Has.resolveAt {object : Located Object} (has : store.Has object) :
    store.Has (store.resolveAt object) := by
  unfold ObjectStore.resolveAt
  split
  · split
    · next read => exact has_of_objectAt read
    · exact has
  · exact has

theorem Has.as? {α : Type} {take : Object → Option α} {make : α → Object} {object : Located Object}
    {taken : Located α} (has : store.Has object)
    (undoes : ∀ {value : Object} {part : α}, take value = some part → make part = value)
    (found : object.as? take = some taken) : store.Has (taken.map make) := by
  obtain ⟨part, read, rfl⟩ := Option.map_eq_some_iff.mp found
  exact has.of_taken undoes read

/-- A document has these entries at their place, in a dictionary or in a stream. -/
def HasEntries (store : ObjectStore) (entries : Located Dictionary) : Prop :=
  (store.at? entries.place).bind Object.entries? = some entries.value

theorem Has.dictionary {dictionary : Located Dictionary}
    (has : store.Has (dictionary.map .dictionary)) : store.HasEntries dictionary :=
  Option.bind_eq_some_iff.mpr ⟨_, has, rfl⟩

theorem Has.entries {stream : Located Stream} (has : store.Has (stream.map Stream.object)) :
    store.HasEntries stream.entries :=
  Option.bind_eq_some_iff.mpr ⟨_, has, rfl⟩

theorem Has.item {array : Located (List Object)} (has : store.Has (array.map .array)) {index : Nat}
    {object : Object} (found : array.value[index]? = some object) :
    store.Has ⟨object, .item array.place index⟩ :=
  Option.bind_eq_some_iff.mpr ⟨_, has, Option.bind_eq_some_iff.mpr ⟨_, rfl, found⟩⟩

theorem HasEntries.find? {entries : Located Dictionary} {key : String} {object : Located Object}
    (has : store.HasEntries entries) (found : entries.find? key = some object) :
    store.Has object := by
  obtain ⟨outer, stands, written⟩ := Option.bind_eq_some_iff.mp has
  obtain ⟨value, listed, rfl⟩ := Option.map_eq_some_iff.mp found
  exact Option.bind_eq_some_iff.mpr ⟨outer, stands, Option.bind_eq_some_iff.mpr ⟨_, written, listed⟩⟩

theorem HasEntries.findAt? {entries : Located Dictionary} {key : String} {object : Located Object}
    (has : store.HasEntries entries) (found : store.findAt? entries key = some object) :
    store.Has object := by
  obtain ⟨written, listed, rfl⟩ := Option.map_eq_some_iff.mp found
  exact (has.find? listed).resolveAt

theorem HasEntries.dictionaryAt? {entries inner : Located Dictionary} {key : String}
    (has : store.HasEntries entries) (found : store.dictionaryAt? entries key = some inner) :
    store.Has (inner.map .dictionary) := by
  obtain ⟨object, listed, taken⟩ := Option.bind_eq_some_iff.mp found
  exact (has.findAt? listed).as? Object.dictionary_of_dictionary? taken

theorem HasEntries.arrayAt? {entries : Located Dictionary} {key : String}
    {array : Located (List Object)} (has : store.HasEntries entries)
    (found : store.arrayAt? entries key = some array) : store.Has (array.map .array) := by
  obtain ⟨object, listed, taken⟩ := Option.bind_eq_some_iff.mp found
  exact (has.findAt? listed).as? Object.array_of_array? taken

end ObjectStore

end PdfElements
