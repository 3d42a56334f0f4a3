import PdfElements.Object.Store

/-!
Where objects are in a document. Objects that are alike are told apart by their places.
-/

set_option autoImplicit false

namespace PdfElements

/-- Where an object is: it has a number, or it is an entry or an item of another object. -/
inductive Place where
  | object (id : ObjectId)
  | entry (around : Place) (key : List UInt8)
  | item (around : Place) (index : Nat)
  /-- Of the dictionary without entries that resources are where none are given. -/
  | outside
  deriving DecidableEq, Repr

/-- A value and the place that it was found at. -/
structure Located (α : Type) where
  value : α
  place : Place

namespace Located

variable {α β : Type}

def as? (located : Located α) (take : α → Option β) : Option (Located β) :=
  (take located.value).map fun value => ⟨value, located.place⟩

def get? (dictionary : Located Dictionary) (key : List UInt8) : Option (Located Object) :=
  (dictionary.value.get? key).map fun value => ⟨value, .entry dictionary.place key⟩

def find? (dictionary : Located Dictionary) (key : String) : Option (Located Object) :=
  dictionary.get? (Text.encodeUtf8 key)

def entries (stream : Located Stream) : Located Dictionary := ⟨stream.value.entries, stream.place⟩

end Located

/-- The resources of those who have none. -/
def Located.nothing : Located Dictionary := ⟨[], .outside⟩

namespace ObjectStore

/-- The number at the end of the chain that starts with a number and may have so many references. -/
def chainEnd (store : ObjectStore) : (hops : Nat) → ObjectId → ObjectId
  | 0, id => id
  | hops + 1, id =>
    match store.entry? id with
    | some (.reference target) => store.chainEnd hops target
    | _ => id

def objectAt (store : ObjectStore) (id : ObjectId) : Except ObjectFault (Located Object) := do
  return ⟨← store.object id, .object (store.chainEnd (referenceLimit + 1) id)⟩

def dictionaryAt (store : ObjectStore) (id : ObjectId) :
    Except ObjectFault (Located Dictionary) := do
  let object ← store.objectAt id
  return ⟨← object.value.asDictionary, object.place⟩

/-- What a reference leads to; any other object, and a reference that leads nowhere, is itself. -/
def resolveAt (store : ObjectStore) (object : Located Object) : Located Object :=
  match object.value with
  | .reference target =>
    match store.objectAt target with
    | .ok found => found
    | .error _ => object
  | _ => object

def findAt? (store : ObjectStore) (dictionary : Located Dictionary) (key : String) :
    Option (Located Object) :=
  (dictionary.find? key).map store.resolveAt

def dictionaryAt? (store : ObjectStore) (dictionary : Located Dictionary) (key : String) :
    Option (Located Dictionary) :=
  (store.findAt? dictionary key).bind fun object => object.as? Object.dictionary?

def arrayAt? (store : ObjectStore) (dictionary : Located Dictionary) (key : String) :
    Option (Located (List Object)) :=
  (store.findAt? dictionary key).bind fun object => object.as? Object.array?

end ObjectStore

end PdfElements
