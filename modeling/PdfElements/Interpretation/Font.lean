import PdfElements.Interpretation.Fault
import PdfElements.Interpretation.State

/-!
Selecting fonts. A font is read once, and then kept under its number or its place; one that cannot
be read is reported and leaves none selected.
-/

set_option autoImplicit false

namespace PdfElements

inductive SelectionFault where
  | object (fault : ObjectFault)
  | font (fault : FontFault)

def SelectionFault.toFailure : SelectionFault → Failure
  | .object fault => .parse fault.message
  | .font fault => fault.toFailure

/-- A font in a document: what it is kept under, its number if it has one, and its dictionary. -/
structure FontSource where
  key : FontKey
  id? : Option ObjectId
  dictionary : Dictionary

/-- The font that an object is: a reference to a dictionary, or a dictionary. -/
def FontSource.ofObject (store : ObjectStore) (object : Located Object) :
    Except SelectionFault FontSource :=
  match object.value with
  | .reference id => do return ⟨.number id, some id, ← (store.dictionary id).mapError .object⟩
  | .dictionary dictionary => return ⟨.place object.place, none, dictionary⟩
  | other => .error (.font (.notDictionary other))

/-- The font that an object is. The name is for fonts without one. -/
def FontCache.load {K : Type} [Scalar K] (cache : FontCache K) (store : ObjectStore)
    (name : String) (object : Located Object) :
    Except SelectionFault (Typeface K × FontCache K) := do
  let source ← FontSource.ofObject store object
  match cache.lookup source.key with
  | some typeface => return (typeface, cache)
  | none =>
    let typeface ← (Typeface.read store source.dictionary source.id? name).mapError .font
    return (typeface, (source.key, typeface) :: cache)

namespace Interpreter

variable {K : Type}

def setFont (typeface? : Option (Typeface K)) (name : String) (size : K)
    (interpreter : Interpreter K) : Interpreter K :=
  interpreter.modify fun state => state.modifyText fun text =>
    { text with typeface?, fontName? := some name, fontSize := size }

def warnFont (setting : Setting) (name description : String) (interpreter : Interpreter K) :
    Interpreter K :=
  interpreter.warn setting { code := .missingFont, description, font? := some name }

variable [Scalar K]

def selectFont (setting : Setting) (name : String) (size : K) (object : Located Object)
    (interpreter : Interpreter K) : Interpreter K :=
  match interpreter.fonts.load setting.store name object with
  | .ok (typeface, fonts) => { interpreter with fonts }.setFont (some typeface) name size
  | .error fault =>
    (interpreter.warnFont setting name
      ("failed to load font /" ++ name ++ ": " ++ fault.toFailure.message)).setFont none name size

def selectNamedFont (setting : Setting) (name : String) (size : K) (interpreter : Interpreter K) :
    Interpreter K :=
  let fonts? := setting.store.dictionaryAt? interpreter.state.resources "Font"
  match fonts?.bind fun fonts => fonts.find? name with
  | some object => interpreter.selectFont setting name size object
  | none =>
    (interpreter.warnFont setting name
      ("font /" ++ name ++ " not found in resources")).setFont none name size

end Interpreter

def Object.fontName : Object → String
  | .reference id => id.text ++ " R"
  | _ => "ExtGState font"

end PdfElements
