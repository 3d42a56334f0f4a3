import PdfElements.Proofs.Interpretation.Continuation

/-! When two interpreters report the same elements. The second one may have more saved states below
those of the first, runs at most as deep, and reports warnings as it likes. -/

set_option autoImplicit false

namespace PdfElements

variable {K : Type}

/-- Two states that operators treat alike, the second one with further saved states below. Matrix
and box of a glyph matter only within one. -/
structure StreamState.Alike (below : List (GraphicsState K)) (first second : StreamState K) :
    Prop where
  current : second.current = first.current
  saved : second.graphics.saved = first.graphics.saved ++ below
  path : second.path = first.path
  text : second.text? = first.text?
  resources : second.resources = first.resources
  pageResources : second.pageResources = first.pageResources
  inGlyph : second.inGlyph = first.inGlyph
  page : second.page = first.page
  initialMatrix : first.inGlyph = true → second.initialMatrix = first.initialMatrix
  glyphBox : first.inGlyph = true → second.glyphBox? = first.glyphBox?
  depth : second.depth ≤ first.depth

theorem StreamState.Alike.graphics {below : List (GraphicsState K)} {first second : StreamState K}
    (alike : first.Alike below second) :
    second.graphics = ⟨first.graphics.current, first.graphics.saved ++ below⟩ :=
  calc second.graphics
    _ = ⟨second.current, second.graphics.saved⟩ := rfl
    _ = ⟨first.graphics.current, first.graphics.saved ++ below⟩ := by
        rw [alike.current, alike.saved]
        rfl

namespace Event

/-- Whether an event is an element of a page, or where a run gets stuck among them. -/
def isElement : Event K → Bool
  | .character _ | .figure _ | .shape _ | .stuck _ => true
  | _ => false

end Event

namespace Interpreter

/-- The elements that were reported so far. -/
def elements (interpreter : Interpreter K) : List (Event K) :=
  interpreter.events.toList.filter Event.isElement

/-- Two interpreters in states that operators treat alike, with the same elements reported. -/
structure Alike (below : List (GraphicsState K)) (first second : Interpreter K) : Prop where
  state : first.state.Alike below second.state
  fonts : second.fonts = first.fonts
  rank : second.rank = first.rank
  elements : second.elements = first.elements

end Interpreter

/-- The same setting with warnings collected. -/
def Setting.collecting (setting : Setting) : Setting :=
  { setting with options := { setting.options with collectWarnings := true } }

@[simp] theorem Setting.store_collecting (setting : Setting) :
    setting.collecting.store = setting.store := rfl

/-! ### What reports do to the two logs -/

namespace Interpreter

theorem elements_send (event : Event K) (interpreter : Interpreter K) :
    (interpreter.send event).elements =
      interpreter.elements ++ [event].filter Event.isElement := by
  unfold elements send
  rw [Array.toList_push, List.filter_append]

theorem elements_warn (setting : Setting) (warning : Warning) (interpreter : Interpreter K) :
    (interpreter.warn setting warning).elements = interpreter.elements := by
  unfold warn
  split
  · rw [elements_send]
    exact List.append_nil _
  · rfl

theorem state_warn (setting : Setting) (warning : Warning) (interpreter : Interpreter K) :
    (interpreter.warn setting warning).state = interpreter.state := by
  unfold warn
  split <;> rfl

theorem fonts_warn (setting : Setting) (warning : Warning) (interpreter : Interpreter K) :
    (interpreter.warn setting warning).fonts = interpreter.fonts := by
  unfold warn
  split <;> rfl

theorem rank_warn (setting : Setting) (warning : Warning) (interpreter : Interpreter K) :
    (interpreter.warn setting warning).rank = interpreter.rank := by
  unfold warn
  split <;> rfl

theorem site_warn (setting : Setting) (warning : Warning) (interpreter : Interpreter K) :
    (interpreter.warn setting warning).site = interpreter.site := by
  unfold warn
  split <;> rfl

/-- Painting the path ends it, and else changes nothing but what is reported. -/
theorem paintPath_eq [Scalar K] (surroundings : Surroundings K) (paints : List Paint)
    (interpreter : Interpreter K) :
    ∃ events, surroundings.paintPath paints interpreter =
      { interpreter.modify fun state => { state.modify fun graphics =>
            graphics.applyClip interpreter.state.path.bounds? with path := .empty } with
        events } := by
  have shapes (bounds : Rect K) (color : Paint → Color) (start : Interpreter K) :
      ∃ events, paints.foldl (fun interpreter paint =>
        interpreter.sendShape surroundings.setting bounds (color paint)) start =
          { start with events } := by
    induction paints generalizing start with
    | nil => exact ⟨start.events, rfl⟩
    | cons paint rest ih =>
        obtain ⟨events, sent⟩ := ih (start.sendShape surroundings.setting bounds (color paint))
        exact ⟨events, sent⟩
  unfold Surroundings.paintPath
  dsimp only
  split
  · exact ⟨_, rfl⟩
  · exact shapes _ _ _

/-- Painting an image reports one thing, and changes nothing else. -/
theorem paintImage_eq [Scalar K] (setting : Setting) (image : Stream)
    (interpreter : Interpreter K) :
    ∃ event, interpreter.paintImage setting image = interpreter.send event := by
  unfold paintImage
  dsimp only
  split <;> exact ⟨_, rfl⟩

theorem state_paintImage [Scalar K] (setting : Setting) (image : Stream)
    (interpreter : Interpreter K) :
    (interpreter.paintImage setting image).state = interpreter.state := by
  obtain ⟨event, painted⟩ := paintImage_eq setting image interpreter
  rw [painted]
  rfl

namespace Alike

variable {below : List (GraphicsState K)} {first second : Interpreter K}

theorem refl (interpreter : Interpreter K) : interpreter.Alike [] interpreter where
  state := ⟨rfl, (List.append_nil _).symm, rfl, rfl, rfl, rfl, rfl, rfl, fun _ => rfl, fun _ => rfl,
    Nat.le_refl _⟩
  fonts := rfl
  rank := rfl
  elements := rfl

theorem warn (alike : first.Alike below second) (setting other : Setting)
    (warning otherWarning : Warning) :
    (first.warn setting warning).Alike below (second.warn other otherWarning) where
  state := by
    rw [state_warn, state_warn]
    exact alike.state
  fonts := by rw [fonts_warn, fonts_warn, alike.fonts]
  rank := by rw [rank_warn, rank_warn, alike.rank]
  elements := by rw [elements_warn, elements_warn, alike.elements]

theorem moveTo (alike : first.Alike below second) (site otherSite : Site) :
    (first.moveTo site).Alike below (second.moveTo otherSite) :=
  ⟨alike.state, alike.fonts, alike.rank, alike.elements⟩

theorem send (alike : first.Alike below second) (event : Event K) :
    (first.send event).Alike below (second.send event) :=
  ⟨alike.state, alike.fonts, alike.rank, by rw [elements_send, elements_send, alike.elements]⟩

theorem modify {others : List (GraphicsState K)} (alike : first.Alike below second)
    {change otherChange : StreamState K → StreamState K}
    (state : (change first.state).Alike others (otherChange second.state)) :
    (first.modify change).Alike others (second.modify otherChange) :=
  ⟨state, alike.fonts, alike.rank, alike.elements⟩

theorem modifyGraphics (alike : first.Alike below second)
    (change : GraphicsState K → GraphicsState K) :
    (first.modify fun state => state.modify change).Alike below
      (second.modify fun state => state.modify change) :=
  alike.modify { alike.state with current := congrArg change alike.state.current }

theorem foldl {Item : Type} {act otherAct : Interpreter K → Item → Interpreter K}
    (same : ∀ {first second : Interpreter K} item, first.Alike below second →
      (act first item).Alike below (otherAct second item))
    (items : List Item) (alike : first.Alike below second) :
    (items.foldl act first).Alike below (items.foldl otherAct second) := by
  induction items generalizing first second with
  | nil => exact alike
  | cons item rest ih => exact ih (same item alike)

theorem setFont (alike : first.Alike below second) (typeface? : Option (Typeface K))
    (name : String) (size : K) :
    (first.setFont typeface? name size).Alike below (second.setFont typeface? name size) :=
  alike.modifyGraphics _

theorem getStuck (alike : first.Alike below second) :
    first.getStuck.Alike below second.getStuck := by
  unfold Interpreter.getStuck
  rw [alike.state.page]
  exact alike.send _

variable [Scalar K]

theorem sendShape (alike : first.Alike below second) (setting : Setting) (box : Rect K)
    (color : Color) :
    (first.sendShape setting.collecting box color).Alike below
      (second.sendShape setting box color) := by
  unfold Interpreter.sendShape
  rw [alike.state.page]
  exact alike.send _

theorem sendFigure (alike : first.Alike below second) (setting : Setting) (box : Rect K) :
    (first.sendFigure setting.collecting box).Alike below (second.sendFigure setting box) := by
  unfold Interpreter.sendFigure
  rw [alike.state.page]
  exact alike.send _

theorem sendCharacter (alike : first.Alike below second) (setting : Setting) (text : String)
    (box : Rect K) (font : Font) (size : K) :
    (first.sendCharacter setting.collecting text box font size).Alike below
      (second.sendCharacter setting text box font size) := by
  unfold Interpreter.sendCharacter
  rw [alike.state.page, alike.state.current, alike.rank]
  have sent := alike.send (.character ⟨text, first.state.page,
    box.rounded setting.options.places?, font, Scalar.roundTo size setting.options.places?,
    first.state.current.filling.color, first.rank⟩)
  exact ⟨sent.state, sent.fonts, rfl, sent.elements⟩

theorem paintImage (alike : first.Alike below second) (setting : Setting) (image : Stream) :
    (first.paintImage setting.collecting image).Alike below
      (second.paintImage setting image) := by
  unfold Interpreter.paintImage
  simp only [Setting.store_collecting, alike.state.resources, alike.state.current]
  split
  · exact alike.sendShape setting _ _
  · exact alike.sendFigure setting _
  · exact alike.getStuck

theorem selectFont (alike : first.Alike below second) (setting : Setting) (name : String)
    (size : K) (object : Located Object) :
    (first.selectFont setting.collecting name size object).Alike below
      (second.selectFont setting name size object) := by
  unfold Interpreter.selectFont
  simp only [Setting.store_collecting, alike.fonts]
  cases first.fonts.load setting.store name object with
  | ok loaded =>
      have cached : Interpreter.Alike below { first with fonts := loaded.2 }
          { second with fonts := loaded.2 } := ⟨alike.state, rfl, alike.rank, alike.elements⟩
      exact cached.setFont _ name size
  | error fault => exact (alike.warn _ _ _ _).setFont none name size

theorem selectNamedFont (alike : first.Alike below second) (setting : Setting) (name : String)
    (size : K) :
    (first.selectNamedFont setting.collecting name size).Alike below
      (second.selectNamedFont setting name size) := by
  unfold Interpreter.selectNamedFont
  simp only [Setting.store_collecting, alike.state.resources]
  cases (setting.store.dictionaryAt? first.state.resources "Font").bind
      fun fonts => fonts.find? name with
  | some object => exact alike.selectFont setting name size object
  | none => exact (alike.warn _ _ _ _).setFont none name size

end Alike

end Interpreter

end PdfElements
