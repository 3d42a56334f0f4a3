import PdfElements.Proofs.Extraction.Rendering
import PdfElements.Proofs.Extraction.Reported

/-! Precision and the collection of warnings are for presentation only. A run with any options finds
what the run without rounding finds; sizes and positions are rounded once, in the end. -/

set_option autoImplicit false

namespace PdfElements

variable {K : Type} [Scalar K]

/-! ### Rounding what was extracted -/

def Character.rounded (places? : Option Nat) (shown : Character K) : Character K :=
  { shown with
    rect := shown.rect.rounded places?
    size := Scalar.roundTo shown.size places? }

def Figure.rounded (places? : Option Nat) (image : Figure K) : Figure K :=
  { image with rect := image.rect.rounded places? }

def Shape.rounded (places? : Option Nat) (area : Shape K) : Shape K :=
  { area with rect := area.rect.rounded places? }

def Page.rounded (places? : Option Nat) (page : Page K) : Page K where
  number := page.number
  width := Scalar.roundTo page.width places?
  height := Scalar.roundTo page.height places?
  characters := page.characters.map (Character.rounded places?)
  figures := page.figures.map (Figure.rounded places?)
  shapes := page.shapes.map (Shape.rounded places?)

def Document.rounded (places? : Option Nat) (document : Document K) : Document K :=
  { document with pages := document.pages.map (Page.rounded places?) }

/-- What the options show of all that was found. -/
def Assembly.presented (options : ExtractionOptions) (assembly : Assembly K) : Assembly K where
  document := assembly.document.rounded options.places?
  warnings := if options.collectWarnings then assembly.warnings else #[]
  counts := assembly.counts

/-- What the options show of an event. -/
def Event.presented? (options : ExtractionOptions) : Event K → Option (Event K)
  | .character shown => some (.character (shown.rounded options.places?))
  | .figure image => some (.figure (image.rounded options.places?))
  | .shape area => some (.shape (area.rounded options.places?))
  | .warning problem => if options.collectWarnings then some (.warning problem) else none
  | .pageStart number width height => some (.pageStart number width height)
  | .pageEnd number => some (.pageEnd number)
  | .stuck page => some (.stuck page)

theorem Event.keepsStuck_presented? (options : ExtractionOptions) :
    Extraction.KeepsStuck (K := K) (Event.presented? options) := by
  intro event
  cases event with
  | warning problem =>
      simp only [presented?]
      split <;> rfl
  | _ => rfl

@[simp] theorem Rect.rounded_none (rect : Rect K) : rect.rounded none = rect := by
  unfold Rect.rounded
  split <;> rfl

@[simp] theorem Document.rounded_none (document : Document K) :
    document.rounded none = document := by
  have characters : Character.rounded (K := K) none = id := by
    funext shown
    simp only [Character.rounded, Rect.rounded_none, Scalar.roundTo, id]
  have figures : Figure.rounded (K := K) none = id := by
    funext image
    simp only [Figure.rounded, Rect.rounded_none, id]
  have shapes : Shape.rounded (K := K) none = id := by
    funext area
    simp only [Shape.rounded, Rect.rounded_none, id]
  have pages : Page.rounded (K := K) none = id := by
    funext page
    simp only [Page.rounded, characters, figures, shapes, Array.map_id, Scalar.roundTo, id]
  simp only [Document.rounded, pages, Array.map_id]

namespace Assembly

omit [Scalar K] in
private theorem modify_map {round change otherChange : Page K → Page K}
    (same : ∀ page, otherChange (round page) = round (change page)) (pages : Array (Page K))
    (index : Nat) :
    (pages.map round).modify index otherChange = (pages.modify index change).map round := by
  refine Array.ext (by simp) ?_
  intro place _ _
  simp only [Array.getElem_modify, Array.getElem_map]
  split
  · exact same _
  · rfl

theorem presented_modifyLast {options : ExtractionOptions} {change otherChange : Page K → Page K}
    (same : ∀ page, otherChange (page.rounded options.places?) =
      (change page).rounded options.places?) (assembly : Assembly K) :
    (assembly.presented options).modifyLast otherChange =
      (assembly.modifyLast change).presented options := by
  simp only [presented, modifyLast, Document.rounded, Array.size_map, modify_map same]

private theorem presented_store {options : ExtractionOptions} {change otherChange : Page K → Page K}
    (same : ∀ page, otherChange (page.rounded options.places?) =
      (change page).rounded options.places?) (assembly : Assembly K) (counts : Counts) :
    (if 0 < (assembly.presented options).document.pages.size then
        { (assembly.presented options).modifyLast otherChange with counts }
      else assembly.presented options) =
      (if 0 < assembly.document.pages.size then { assembly.modifyLast change with counts }
        else assembly).presented options := by
  have size : (assembly.presented options).document.pages.size = assembly.document.pages.size :=
    Array.size_map
  rw [size, presented_modifyLast same]
  split <;> rfl

theorem presented_add (assembly : Assembly K) (options : ExtractionOptions) (event : Event K) :
    (match event.presented? options with
      | some shown => (assembly.presented options).add options.places? shown
      | none => assembly.presented options) = (assembly.add none event).presented options := by
  cases event with
  | pageStart number width height =>
      simp [Event.presented?, add, presented, Document.rounded, Page.rounded, Page.blank,
        Scalar.roundTo]
  | character shown =>
      have same (page : Page K) : { page.rounded options.places? with
            characters := (page.rounded options.places?).characters.push
              (shown.rounded options.places?) } =
          Page.rounded options.places? { page with characters := page.characters.push shown } := by
        simp only [Page.rounded, Array.map_push]
      exact presented_store same assembly _
  | figure image =>
      have same (page : Page K) : { page.rounded options.places? with
            figures := (page.rounded options.places?).figures.push
              (image.rounded options.places?) } =
          Page.rounded options.places? { page with figures := page.figures.push image } := by
        simp only [Page.rounded, Array.map_push]
      exact presented_store same assembly _
  | shape area =>
      have same (page : Page K) : { page.rounded options.places? with
            shapes := (page.rounded options.places?).shapes.push
              (area.rounded options.places?) } =
          Page.rounded options.places? { page with shapes := page.shapes.push area } := by
        simp only [Page.rounded, Array.map_push]
      exact presented_store same assembly _
  | warning problem =>
      simp only [Event.presented?, add]
      cases collected : options.collectWarnings <;> simp [presented, collected]
  | pageEnd | stuck => rfl

theorem presented_foldl (assembly : Assembly K) (options : ExtractionOptions)
    (events : List (Event K)) :
    (events.filterMap (Event.presented? options)).foldl (add options.places?)
        (assembly.presented options) =
      (events.foldl (add none) assembly).presented options := by
  induction events generalizing assembly with
  | nil => rfl
  | cons event rest ih =>
      have once := assembly.presented_add options event
      cases shown : event.presented? options with
      | none =>
          simp only [shown] at once
          rw [List.filterMap_cons_none shown, List.foldl_cons, ← ih, once]
      | some shownEvent =>
          simp only [shown] at once
          rw [List.filterMap_cons_some shown, List.foldl_cons, List.foldl_cons, ← ih, once]

end Assembly

/-! ### Runs that differ in presentation -/

/-- The options with all digits and all warnings. -/
def ExtractionOptions.unrounded (options : ExtractionOptions) : ExtractionOptions :=
  { options with places? := none, collectWarnings := true }

theorem ExtractionOptions.depthLimit_unrounded (options : ExtractionOptions) :
    options.unrounded.depthLimit = options.depthLimit := rfl

private theorem presented_warning (options : ExtractionOptions) (problem : Warning) :
    (if options.unrounded.collectWarnings then [Event.warning problem] else []).filterMap
        (Event.presented? (K := K) options) =
      if options.collectWarnings then [.warning problem] else [] := by
  cases collected : options.collectWarnings <;>
    simp [ExtractionOptions.unrounded, Event.presented?, collected]

/-- The run without rounding, as the options present it. -/
def Rendition.presentation (store : ObjectStore) (options : ExtractionOptions) :
    Rendition K store options.unrounded options where
  look := id
  event? := Event.presented? options
  shift := 0
  agree := Eq
  depthLimit := options.depthLimit_unrounded.symm
  load := by
    rintro name object _ fonts _ rfl
    cases fonts.load store name object with
    | ok loaded => exact .ok rfl rfl
    | error fault => exact .error fault
  warning := presented_warning options
  character shown := by
    simp only [ExtractionOptions.unrounded, Rect.rounded_none]
    rfl
  figure image := by
    simp only [ExtractionOptions.unrounded, Rect.rounded_none]
    rfl
  shape area := by
    simp only [ExtractionOptions.unrounded, Rect.rounded_none]
    rfl
  pageStart _ _ _ := rfl
  pageEnd _ := rfl
  stuck _ := rfl

namespace Extraction

theorem trace_eq_presented (store : ObjectStore) (options : ExtractionOptions) :
    (trace store options : List (Event K)) =
      (trace store options.unrounded).filterMap (Event.presented? options) := by
  let start : Interpreter K := .start
  have sameSite : start.site = start.site := rfl
  obtain ⟨added, shown, found, foundShown, same⟩ :=
    Interpreter.renders_pages (.presentation store options) sameSite rfl rfl rfl
      (PageTree.pages store).length 0 (PageTree.pages store)
  have all : (trace store options.unrounded : List (Event K)) = added := found
  have allShown : (trace store options : List (Event K)) = shown := foundShown
  simp only [Rendition.presentation, Event.map_seen_id] at same
  rw [all, allShown, same]

theorem events_eq_presented (store : ObjectStore) (options : ExtractionOptions) :
    (events store options : List (Event K)) =
      (events store options.unrounded).filterMap (Event.presented? options) :=
  (congrArg reported (trace_eq_presented store options)).trans
    (reported_filterMap (Event.keepsStuck_presented? options) _)

theorem document_eq_presented (store : ObjectStore) (options : ExtractionOptions)
    (source? : Option String) :
    (document store options source? : Option (Assembly K)) =
      (document store options.unrounded source?).map (Assembly.presented options) := by
  have empty : Assembly.start source? = (Assembly.start (K := K) source?).presented options := by
    simp [Assembly.start, Assembly.presented, Document.rounded]
  have folded := Assembly.presented_foldl (K := K) (.start source?) options
    (trace store options.unrounded)
  rw [← empty, ← trace_eq_presented] at folded
  have sameEnd : (trace store options : List (Event K)).any Event.isStuck =
      (trace store options.unrounded).any Event.isStuck :=
    (congrArg (List.any · Event.isStuck) (trace_eq_presented store options)).trans
      (any_isStuck_filterMap (Event.keepsStuck_presented? options) _)
  unfold document assembled
  rw [sameEnd]
  split
  · rfl
  · exact congrArg some folded

/-- Whatever the options, a run yields the document of the run without rounding, with all sizes and
rectangles rounded once, or none where that run yields none; it has the warnings of that run when
warnings are collected, and else none. -/
theorem extraction_rounds_once (store : ObjectStore) (options : ExtractionOptions)
    (source? : Option String) :
    let unrounded (collectWarnings : Bool) : Option (Assembly K) :=
      document store { options with places? := none, collectWarnings } source?
    let extracted : Option (Assembly K) := document store options source?
    (∀ collectWarnings, extracted.map Assembly.document =
      (unrounded collectWarnings).map fun assembly => assembly.document.rounded options.places?) ∧
    extracted.map Assembly.warnings =
      (unrounded true).map (fun assembly =>
        if options.collectWarnings then assembly.warnings else #[]) ∧
    extracted.map Assembly.counts = (unrounded true).map Assembly.counts := by
  intro unrounded extracted
  have presented : extracted = (unrounded true).map (Assembly.presented options) :=
    document_eq_presented store options source?
  have uncollected (collectWarnings : Bool) : (unrounded collectWarnings).map Assembly.document =
      (unrounded true).map Assembly.document := by
    have same := document_eq_presented (K := K) store
      { options with places? := none, collectWarnings } source?
    refine (congrArg (Option.map Assembly.document) same).trans ?_
    rw [Option.map_map]
    exact congrArg (Option.map · _) (funext fun assembly => Document.rounded_none _)
  have rounded (assembly? : Option (Assembly K)) :
      (assembly?.map fun assembly => assembly.document.rounded options.places?) =
        (assembly?.map Assembly.document).map (Document.rounded options.places?) := by
    rw [Option.map_map]
    rfl
  refine ⟨?_, ?_, ?_⟩
  · intro collectWarnings
    rw [rounded, uncollected, ← rounded, presented, Option.map_map]
    rfl
  · rw [presented, Option.map_map]
    rfl
  · rw [presented, Option.map_map]
    rfl

end Extraction

end PdfElements
