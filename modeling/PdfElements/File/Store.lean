import PdfElements.File.Table
import PdfElements.Object.Store

/-!
Reading a file into the objects of a document.
-/

set_option autoImplicit false

namespace PdfElements.File

/-- The object that a table gives for a number, if its stream, were it one, told its own length. -/
def plainObject? (bytes : List UInt8) (table : Table) (id : ObjectId) : Option Object := do
  let entry ← table.find? fun entry => entry.1 = id.number
  let (found, object) ← numbered? Object.integer? (bytes.drop entry.2)
  if found = id then some object else none

def length? (bytes : List UInt8) (table : Table) : Object → Option Int
  | .reference target => (plainObject? bytes table target).bind Object.integer?
  | object => object.integer?

def setObject (objects : List (ObjectId × Object)) (id : ObjectId) (object : Object) :
    List (ObjectId × Object) :=
  match objects with
  | [] => [(id, object)]
  | (candidate, old) :: rest =>
    if candidate = id then (id, object) :: rest else (candidate, old) :: setObject rest id object

def objects (bytes : List UInt8) (table : Table) : List (ObjectId × Object) :=
  let read := table.filterMap fun entry =>
    numbered? (length? bytes table) (bytes.drop entry.2)
  read.foldl (fun objects (id, object) => setObject objects id object) []

def store (bytes : List UInt8) : Except FileFault ObjectStore :=
  let bytes := withoutPreamble bytes
  if !hasHeader bytes then .error .header
  else
    match start? bytes with
    | none => .error .start
    | some start =>
      match tableAndTrailer? (bytes.drop start) with
      | none => .error .trailer
      | some (table, trailer) => .ok { objects := objects bytes table, trailer }

end PdfElements.File

namespace PdfElements.ObjectStore

def isEncrypted (store : ObjectStore) : Bool :=
  match (store.trailer.find? "Encrypt").bind Object.reference? with
  | none => false
  | some id => (store.dictionary id).toOption.isSome

def ofFile (bytes : List UInt8) : Except DocumentError ObjectStore :=
  match File.store bytes with
  | .error fault => .error fault.toDocumentError
  | .ok store => if store.isEncrypted then .error .passwordRequired else .ok store

end PdfElements.ObjectStore
