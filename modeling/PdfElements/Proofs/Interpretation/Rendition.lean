import PdfElements.Proofs.Interpretation.Alike
import PdfElements.Proofs.Interpretation.Provided

/-! One run as the rendition of another one of the same document. They differ in what is told of
events, in the number that ranks begin with and in the fonts that were read before; a state is the
same in both, as far as fonts are looked at. Each thing that an interpreter does keeps it so. -/

set_option autoImplicit false

namespace PdfElements

variable {K : Type}

def Event.page? : Event K → Option Nat
  | .pageStart number _ _ => some number
  | .character shown => some shown.page
  | .figure image => some image.page
  | .shape area => some area.page
  | .warning problem => problem.page?
  | .pageEnd number => some number
  | .stuck page => some page

/-! ### What is looked at of fonts -/

section look

variable (look : Font → Font)

def Typeface.seen (typeface : Typeface K) : Typeface K :=
  { typeface with font := look typeface.font }

def TextParameters.seen (parameters : TextParameters K) : TextParameters K :=
  { parameters with typeface? := parameters.typeface?.map (Typeface.seen look) }

def GraphicsState.seen (state : GraphicsState K) : GraphicsState K :=
  { state with text := state.text.seen look }

def GraphicsStack.seen (stack : GraphicsStack K) : GraphicsStack K where
  current := stack.current.seen look
  saved := stack.saved.map (GraphicsState.seen look)

def StreamState.seen (state : StreamState K) : StreamState K :=
  { state with graphics := state.graphics.seen look }

def OuterStream.seen (outer : OuterStream K) : OuterStream K :=
  { outer with graphics := outer.graphics.seen look }

def Event.seen : Event K → Event K
  | .character shown => .character { shown with font := look shown.font }
  | event => event

@[simp] theorem Event.map_seen_id (events : List (Event K)) :
    events.map (Event.seen id) = events := by
  have unchanged : Event.seen (K := K) id = id := by
    funext event
    cases event <;> rfl
  rw [unchanged, List.map_id]

theorem Event.isStuck_seen (event : Event K) : (event.seen look).isStuck = event.isStuck := by
  cases event <;> rfl

theorem GraphicsStack.seen_restore (stack : GraphicsStack K) :
    stack.restore.seen look = (stack.seen look).restore := by
  obtain ⟨current, saved⟩ := stack
  cases saved <;> rfl

theorem GraphicsState.seen_applyClip [Scalar K] (state : GraphicsState K)
    (bounds? : Option (Rect K)) :
    (state.applyClip bounds?).seen look = (state.seen look).applyClip bounds? := by
  obtain ⟨matrix, stroking, filling, text, pendingClip?, clipBox⟩ := state
  cases pendingClip? <;> rfl

theorem StreamState.seen_leave (state : StreamState K) (outer : OuterStream K) :
    (state.leave outer).seen look = (state.seen look).leave (outer.seen look) :=
  rfl

end look

/-- What is read of two things that look the same is the same, if it is read without that look. -/
theorem reads_of_seen {Thing Value : Type} {seen : Thing → Thing} {one other : Thing}
    (same : seen other = seen one) (read : Thing → Value)
    (blind : ∀ thing, read (seen thing) = read thing) :
    read other = read one := by
  rw [← blind, same, blind]

/-- Two ways of loading a font that come to the same, as far as it is looked at, and caches behind
them that agree. -/
inductive FontCache.LoadsAlike (look : Font → Font) (agree : FontCache K → FontCache K → Prop) :
    Except SelectionFault (Typeface K × FontCache K) →
    Except SelectionFault (Typeface K × FontCache K) → Prop where
  | ok {typeface otherTypeface : Typeface K} {fonts otherFonts : FontCache K} :
      otherTypeface.seen look = typeface.seen look → agree fonts otherFonts →
      LoadsAlike look agree (.ok (typeface, fonts)) (.ok (otherTypeface, otherFonts))
  | error (fault : SelectionFault) : LoadsAlike look agree (.error fault) (.error fault)

/-- How what is reported of a document with some options is rendered with others. An event may be
left out, but for that each one is sent as the other options have it sent, as far as fonts are
looked at. -/
structure Rendition (K : Type) [Scalar K] (store : ObjectStore)
    (options otherOptions : ExtractionOptions) where
  look : Font → Font
  event? : Event K → Option (Event K)
  /-- By how much ranks are greater. -/
  shift : Nat
  agree : FontCache K → FontCache K → Prop
  depthLimit : otherOptions.depthLimit = options.depthLimit
  load {name : String} {object : Located Object} : store.OffersFont name object →
    ∀ {fonts otherFonts : FontCache K}, agree fonts otherFonts →
      FontCache.LoadsAlike look agree (fonts.load store name object)
        (otherFonts.load store name object)
  warning (problem : Warning) :
    (if options.collectWarnings then [.warning problem] else []).filterMap event? =
      if otherOptions.collectWarnings then [.warning problem] else []
  character (shown : Character K) :
    event? (.character { shown with
        rect := shown.rect.rounded options.places?
        size := Scalar.roundTo shown.size options.places? }) =
      some (.character { shown with
        rect := shown.rect.rounded otherOptions.places?
        font := look shown.font
        size := Scalar.roundTo shown.size otherOptions.places?
        rank := shown.rank + shift })
  figure (image : Figure K) :
    event? (.figure { image with rect := image.rect.rounded options.places? }) =
      some (.figure { image with rect := image.rect.rounded otherOptions.places? })
  shape (area : Shape K) :
    event? (.shape { area with rect := area.rect.rounded options.places? }) =
      some (.shape { area with rect := area.rect.rounded otherOptions.places? })
  pageStart (number : Nat) (width height : K) :
    event? (.pageStart number width height) = some (.pageStart number width height)
  pageEnd (number : Nat) : event? (.pageEnd number) = some (.pageEnd number)
  stuck (page : Nat) : event? (.stuck page) = some (.stuck page)

/-- The number of a page, and what two runs have reported before it. -/
structure PageTurn (K : Type) where
  page : Nat
  before : List (Event K)
  otherBefore : List (Event K)

namespace Interpreter

variable [Scalar K] {store : ObjectStore} {options otherOptions : ExtractionOptions}

/-- Two interpreters that have reported the same of a page, as far as the rendition goes. -/
structure Renders (rendition : Rendition K store options otherOptions) (turn : PageTurn K)
    (one other : Interpreter K) : Prop where
  site : other.site = one.site
  rank : other.rank = one.rank + rendition.shift
  fonts : rendition.agree one.fonts other.fonts
  reports : ∃ added otherAdded, one.events.toList = turn.before ++ added ∧
    other.events.toList = turn.otherBefore ++ otherAdded ∧
    added.filterMap rendition.event? = otherAdded.map (Event.seen rendition.look) ∧
    ∀ event ∈ added, event.page? = some turn.page

/-- Two such interpreters within the page, in the same state. -/
structure Mirrors (rendition : Rendition K store options otherOptions) (turn : PageTurn K)
    (one other : Interpreter K) : Prop extends Renders rendition turn one other where
  state : other.state.seen rendition.look = one.state.seen rendition.look
  onPage : one.state.page = turn.page
  started : 0 < turn.page
  resources : store.Provides one.state.resources
  pageResources : store.Provides one.state.pageResources

variable {rendition : Rendition K store options otherOptions} {turn : PageTurn K}
  {one other : Interpreter K}

namespace Renders

theorem report (renders : one.Renders rendition turn other) {reached otherReached : Interpreter K}
    {sent otherSent : List (Event K)}
    (events : reached.events.toList = one.events.toList ++ sent)
    (otherEvents : otherReached.events.toList = other.events.toList ++ otherSent)
    (rendered : sent.filterMap rendition.event? = otherSent.map (Event.seen rendition.look))
    (placed : ∀ event ∈ sent, event.page? = some turn.page) :
    ∃ added otherAdded, reached.events.toList = turn.before ++ added ∧
      otherReached.events.toList = turn.otherBefore ++ otherAdded ∧
      added.filterMap rendition.event? = otherAdded.map (Event.seen rendition.look) ∧
      ∀ event ∈ added, event.page? = some turn.page := by
  obtain ⟨added, otherAdded, reports, otherReports, same, pages⟩ := renders.reports
  refine ⟨added ++ sent, otherAdded ++ otherSent, ?_, ?_, ?_, ?_⟩
  · rw [events, reports, List.append_assoc]
  · rw [otherEvents, otherReports, List.append_assoc]
  · rw [List.filterMap_append, same, rendered, List.map_append]
  · intro event member
    rcases List.mem_append.mp member with member | member
    · exact pages event member
    · exact placed event member

theorem send (renders : one.Renders rendition turn other) {event otherEvent : Event K}
    (rendered : rendition.event? event = some (otherEvent.seen rendition.look))
    (placed : event.page? = some turn.page) :
    (one.send event).Renders rendition turn (other.send otherEvent) where
  site := renders.site
  rank := renders.rank
  fonts := renders.fonts
  reports := by
    refine renders.report Array.toList_push Array.toList_push ?_ ?_
    · simp only [List.filterMap_cons, rendered, List.filterMap_nil, List.map_cons, List.map_nil]
    · intro reported member
      obtain rfl := List.mem_singleton.mp member
      exact placed

omit [Scalar K] in
private theorem events_warn (setting : Setting) (warning : Warning) (interpreter : Interpreter K) :
    (interpreter.warn setting warning).events.toList = interpreter.events.toList ++
      if setting.options.collectWarnings then [.warning (interpreter.locate warning)] else [] := by
  unfold Interpreter.warn
  split
  · exact Array.toList_push
  · exact (List.append_nil _).symm

theorem warn (renders : one.Renders rendition turn other) (warning : Warning)
    (located : other.locate warning = one.locate warning)
    (placed : (one.locate warning).page? = some turn.page) :
    (one.warn ⟨store, options⟩ warning).Renders rendition turn
      (other.warn ⟨store, otherOptions⟩ warning) where
  site := by rw [site_warn, site_warn, renders.site]
  rank := by rw [rank_warn, rank_warn, renders.rank]
  fonts := by
    rw [fonts_warn, fonts_warn]
    exact renders.fonts
  reports := by
    refine renders.report (events_warn _ _ _) (events_warn _ _ _) ?_ ?_
    · rw [located, rendition.warning]
      split <;> rfl
    · intro event member
      split at member
      · obtain rfl := List.mem_singleton.mp member
        exact placed
      · cases member

end Renders

namespace Mirrors

theorem reads {Value : Type} (mirrors : one.Mirrors rendition turn other)
    (read : StreamState K → Value)
    (blind : ∀ state, read (state.seen rendition.look) = read state) :
    read other.state = read one.state :=
  reads_of_seen mirrors.state read blind

theorem enter (mirrors : one.Mirrors rendition turn other) (change : StreamState K → StreamState K)
    (resources : store.Provides (change one.state).resources)
    (blind : ∀ state : StreamState K,
      (change state).seen rendition.look = change (state.seen rendition.look))
    (page : (change one.state).page = one.state.page)
    (pageResources : (change one.state).pageResources = one.state.pageResources) :
    (one.modify change).Mirrors rendition turn (other.modify change) where
  toRenders := ⟨mirrors.site, mirrors.rank, mirrors.fonts, mirrors.reports⟩
  state := by
    simp only [Interpreter.modify]
    rw [blind, blind, mirrors.state]
  onPage := page.trans mirrors.onPage
  started := mirrors.started
  resources := resources
  pageResources := pageResources ▸ mirrors.pageResources

theorem modify (mirrors : one.Mirrors rendition turn other) (change : StreamState K → StreamState K)
    (blind : ∀ state : StreamState K,
      (change state).seen rendition.look = change (state.seen rendition.look))
    (resources : (change one.state).resources = one.state.resources)
    (page : (change one.state).page = one.state.page)
    (pageResources : (change one.state).pageResources = one.state.pageResources) :
    (one.modify change).Mirrors rendition turn (other.modify change) :=
  mirrors.enter change (resources ▸ mirrors.resources) blind page pageResources

theorem leave {inner otherInner : Interpreter K} (mirrors : inner.Mirrors rendition turn otherInner)
    (around : one.Mirrors rendition turn other) :
    (inner.modify fun state => state.leave one.state.outer).Mirrors rendition turn
      (otherInner.modify fun state => state.leave other.state.outer) where
  toRenders := ⟨mirrors.site, mirrors.rank, mirrors.fonts, mirrors.reports⟩
  state := by
    have outer : other.state.outer.seen rendition.look = one.state.outer.seen rendition.look :=
      congrArg StreamState.outer around.state
    simp only [Interpreter.modify]
    rw [StreamState.seen_leave, mirrors.state, outer]
    rfl
  onPage := mirrors.onPage
  started := mirrors.started
  resources := around.resources
  pageResources := mirrors.pageResources

theorem moveTo (mirrors : one.Mirrors rendition turn other) (site : Site) :
    (one.moveTo site).Mirrors rendition turn (other.moveTo site) :=
  { mirrors with site := rfl }

theorem send (mirrors : one.Mirrors rendition turn other) {event otherEvent : Event K}
    (rendered : rendition.event? event = some (otherEvent.seen rendition.look))
    (placed : event.page? = some turn.page) :
    (one.send event).Mirrors rendition turn (other.send otherEvent) :=
  { mirrors with toRenders := mirrors.toRenders.send rendered placed }

theorem warn (mirrors : one.Mirrors rendition turn other) (warning : Warning)
    (unplaced : warning.page? = none) :
    (one.warn ⟨store, options⟩ warning).Mirrors rendition turn
      (other.warn ⟨store, otherOptions⟩ warning) := by
  have located : other.locate warning = one.locate warning := by
    unfold locate
    rw [mirrors.reads StreamState.page (fun _ => rfl), mirrors.site]
  have placed : (one.locate warning).page? = some turn.page := by
    unfold locate
    dsimp only
    rw [unplaced, mirrors.onPage, if_pos mirrors.started]
    split <;> rfl
  have reported := mirrors.toRenders.warn warning located placed
  refine ⟨reported, ?_, ?_, mirrors.started, ?_, ?_⟩ <;> simp only [state_warn]
  · exact mirrors.state
  · exact mirrors.onPage
  · exact mirrors.resources
  · exact mirrors.pageResources

theorem foldl {Item : Type} {act otherAct : Interpreter K → Item → Interpreter K}
    (same : ∀ {one other : Interpreter K} item, one.Mirrors rendition turn other →
      (act one item).Mirrors rendition turn (otherAct other item))
    (items : List Item) (mirrors : one.Mirrors rendition turn other) :
    (items.foldl act one).Mirrors rendition turn (items.foldl otherAct other) := by
  induction items generalizing one other with
  | nil => exact mirrors
  | cons item rest ih => exact ih (same item mirrors)

theorem getStuck (mirrors : one.Mirrors rendition turn other) :
    one.getStuck.Mirrors rendition turn other.getStuck := by
  unfold Interpreter.getStuck
  rw [mirrors.reads StreamState.page (fun _ => rfl)]
  exact mirrors.send (rendition.stuck one.state.page) (congrArg some mirrors.onPage)

theorem sendShape (mirrors : one.Mirrors rendition turn other) (box : Rect K) (color : Color) :
    (one.sendShape ⟨store, options⟩ box color).Mirrors rendition turn
      (other.sendShape ⟨store, otherOptions⟩ box color) := by
  unfold Interpreter.sendShape
  rw [mirrors.reads StreamState.page (fun _ => rfl)]
  exact mirrors.send (rendition.shape ⟨one.state.page, box, color⟩) (congrArg some mirrors.onPage)

theorem sendFigure (mirrors : one.Mirrors rendition turn other) (box : Rect K) :
    (one.sendFigure ⟨store, options⟩ box).Mirrors rendition turn
      (other.sendFigure ⟨store, otherOptions⟩ box) := by
  unfold Interpreter.sendFigure
  rw [mirrors.reads StreamState.page (fun _ => rfl)]
  exact mirrors.send (rendition.figure ⟨one.state.page, box⟩) (congrArg some mirrors.onPage)

theorem sendCharacter (mirrors : one.Mirrors rendition turn other) (text : String) (box : Rect K)
    {font otherFont : Font} (same : rendition.look otherFont = rendition.look font) (size : K) :
    (one.sendCharacter ⟨store, options⟩ text box font size).Mirrors rendition turn
      (other.sendCharacter ⟨store, otherOptions⟩ text box otherFont size) := by
  unfold Interpreter.sendCharacter
  rw [mirrors.reads StreamState.page (fun _ => rfl),
    mirrors.reads (·.current.filling.color) (fun _ => rfl), mirrors.rank]
  have rendered := rendition.character
    ⟨text, one.state.page, box, font, size, one.state.current.filling.color, one.rank⟩
  rw [← same] at rendered
  change _ = some (Event.seen rendition.look (.character
    ⟨text, one.state.page, box.rounded otherOptions.places?, otherFont,
      Scalar.roundTo size otherOptions.places?, one.state.current.filling.color,
      one.rank + rendition.shift⟩)) at rendered
  have sent := mirrors.send rendered (congrArg some mirrors.onPage)
  refine { sent with rank := ?_ }
  exact Nat.add_right_comm one.rank rendition.shift 1

theorem paintImage (mirrors : one.Mirrors rendition turn other) (image : Stream) :
    (one.paintImage ⟨store, options⟩ image).Mirrors rendition turn
      (other.paintImage ⟨store, otherOptions⟩ image) := by
  unfold Interpreter.paintImage
  dsimp only
  rw [mirrors.reads StreamState.resources (fun _ => rfl),
    mirrors.reads (·.current.matrix) (fun _ => rfl),
    mirrors.reads (·.current.filling.color) (fun _ => rfl)]
  split
  · exact mirrors.sendShape _ _
  · exact mirrors.sendFigure _
  · exact mirrors.getStuck

theorem setFont (mirrors : one.Mirrors rendition turn other)
    {typeface? otherTypeface? : Option (Typeface K)}
    (same : otherTypeface?.map (Typeface.seen rendition.look) =
      typeface?.map (Typeface.seen rendition.look)) (name : String) (size : K) :
    (one.setFont typeface? name size).Mirrors rendition turn
      (other.setFont otherTypeface? name size) where
  toRenders := ⟨mirrors.site, mirrors.rank, mirrors.fonts, mirrors.reports⟩
  state := by
    have selected (typeface? : Option (Typeface K)) (interpreter : Interpreter K) :
        (interpreter.setFont typeface? name size).state.seen rendition.look =
          (interpreter.state.seen rendition.look).modifyText fun text =>
            { text with
              typeface? := typeface?.map (Typeface.seen rendition.look)
              fontName? := some name
              fontSize := size } := rfl
    rw [selected, selected, same, mirrors.state]
  onPage := mirrors.onPage
  started := mirrors.started
  resources := mirrors.resources
  pageResources := mirrors.pageResources

theorem selectFont (mirrors : one.Mirrors rendition turn other) (name : String) (size : K)
    {object : Located Object} (offered : store.OffersFont name object) :
    (one.selectFont ⟨store, options⟩ name size object).Mirrors rendition turn
      (other.selectFont ⟨store, otherOptions⟩ name size object) := by
  unfold Interpreter.selectFont
  dsimp only
  have loads := rendition.load offered mirrors.fonts
  generalize one.fonts.load store name object = loaded at loads ⊢
  generalize other.fonts.load store name object = otherLoaded at loads ⊢
  cases loads with
  | @ok typeface otherTypeface fonts otherFonts same agree =>
      have cached : Interpreter.Mirrors rendition turn { one with fonts }
          { other with fonts := otherFonts } := { mirrors with fonts := agree }
      refine cached.setFont ?_ name size
      rw [Option.map_some, Option.map_some, same]
  | error fault => exact (mirrors.warn _ rfl).setFont rfl name size

theorem selectNamedFont (mirrors : one.Mirrors rendition turn other) (name : String) (size : K) :
    (one.selectNamedFont ⟨store, options⟩ name size).Mirrors rendition turn
      (other.selectNamedFont ⟨store, otherOptions⟩ name size) := by
  unfold Interpreter.selectNamedFont
  rw [mirrors.reads StreamState.resources (fun _ => rfl)]
  dsimp only
  cases found : (store.dictionaryAt? one.state.resources "Font").bind
      fun fonts => fonts.find? name with
  | some object =>
      obtain ⟨fonts, listed, member⟩ := Option.bind_eq_some_iff.mp found
      exact mirrors.selectFont name size (.named mirrors.resources listed member)
  | none => exact (mirrors.warn _ rfl).setFont rfl name size

end Mirrors

end Interpreter

end PdfElements
