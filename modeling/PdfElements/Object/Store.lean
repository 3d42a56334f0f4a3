import PdfElements.Object.Basic

/-!
The objects of one document and the trailer that leads to them. A reference may lead to another
reference; what is asked for is at the end of the chain.
-/

set_option autoImplicit false

namespace PdfElements

/-- The numbered objects of a document and its trailer. -/
structure ObjectStore where
  objects : List (ObjectId × Object)
  trailer : Dictionary

namespace ObjectStore

def referenceLimit : Nat := 128

def entry? (store : ObjectStore) (id : ObjectId) : Option Object :=
  (store.objects.find? fun entry => entry.1 == id).map Prod.snd

/-- The end of the chain that starts at an object and may have `hops` more references. -/
def follow (store : ObjectStore) : (hops : Nat) → Object → Except ObjectFault Object
  | hops, .reference target =>
    match store.entry? target with
    | none => .error (.notFound target)
    | some next =>
      match hops with
      | 0 => .error .referenceLimit
      | hops + 1 => follow store hops next
  | _, object => .ok object

def object (store : ObjectStore) (id : ObjectId) : Except ObjectFault Object :=
  match store.entry? id with
  | none => .error (.notFound id)
  | some first => store.follow referenceLimit first

def dictionary (store : ObjectStore) (id : ObjectId) : Except ObjectFault Dictionary := do
  (← store.object id).asDictionary

/-- What a reference leads to; any other object, and a reference that leads nowhere, is itself. -/
def resolve (store : ObjectStore) : Object → Object
  | .reference target =>
    match store.object target with
    | .ok object => object
    | .error _ => .reference target
  | object => object

def find? (store : ObjectStore) (dictionary : Dictionary) (key : String) : Option Object :=
  (dictionary.find? key).map store.resolve

def dictionary? (store : ObjectStore) (dictionary : Dictionary) (key : String) : Option Dictionary :=
  (store.find? dictionary key).bind Object.dictionary?

def array? (store : ObjectStore) (dictionary : Dictionary) (key : String) : Option (List Object) :=
  (store.find? dictionary key).bind Object.array?

def stream? (store : ObjectStore) (dictionary : Dictionary) (key : String) : Option Stream :=
  (store.find? dictionary key).bind Object.stream?

def numberOf? {K : Type} [Scalar K] (store : ObjectStore) (object : Object) : Option K :=
  (store.resolve object).number?

def number? {K : Type} [Scalar K] (store : ObjectStore) (dictionary : Dictionary) (key : String) :
    Option K :=
  (dictionary.find? key).bind store.numberOf?

def integer? (store : ObjectStore) (dictionary : Dictionary) (key : String) : Option Int :=
  (store.find? dictionary key).bind Object.integer?

end ObjectStore

end PdfElements
