import PdfElements.Proofs.Extraction.Rendering
import PdfElements.Proofs.Extraction.Reported
import PdfElements.Proofs.Interpretation.Fonts

/-! Reading fonts once and reading them whenever they are selected. The elements, the warnings and
their order are the same. The fonts of characters have the same names too, unless a font without a
name of its own is selected under several: it keeps the first one. -/

set_option autoImplicit false

namespace PdfElements

variable {K : Type} [Scalar K]

/-! ### A run that forgets the fonts that it has read -/

namespace Interpreter

def forgetFonts (interpreter : Interpreter K) : Interpreter K := { interpreter with fonts := [] }

/-- An interpreter that has forgotten its fonts reads the one that it selects afresh. -/
theorem selectFont_forgetFonts (setting : Setting) (name : String) (size : K)
    (object : Located Object) (interpreter : Interpreter K) :
    (interpreter.forgetFonts.selectFont setting name size object).forgetFonts =
      match Typeface.ofObject setting.store name object.value with
      | .ok typeface => (interpreter.setFont (some typeface) name size).forgetFonts
      | .error fault =>
        ((interpreter.warnFont setting name
          ("failed to load font /" ++ name ++ ": " ++ fault.toFailure.message)).setFont none name
            size).forgetFonts := by
  have read := FontCache.load_nil (K := K) setting.store name object
  have nothing : interpreter.forgetFonts.fonts = [] := rfl
  unfold selectFont
  rw [nothing]
  cases loaded : FontCache.load (K := K) [] setting.store name object with
  | ok found =>
      rw [loaded] at read
      rw [← read]
      rfl
  | error fault =>
      rw [loaded] at read
      rw [← read]
      simp only [Except.map]
      unfold warnFont warn
      split <;> rfl

end Interpreter

namespace Interpretation

def stepAfresh (surroundings : Surroundings K) (progress : Progress K) (token : Token K) :
    Progress K :=
  step surroundings { progress with interpreter := progress.interpreter.forgetFonts } token

def runAfreshWith (setting : Setting) (nested : Runner K) : Runner K := fun content interpreter =>
  let lexed : Content.Lexed K := Content.tokens content
  let progress := lexed.tokens.foldl (stepAfresh ⟨setting, nested⟩) ⟨interpreter, [], 0⟩
  (finish setting lexed.fault? progress).moveTo interpreter.site

def runAfreshWithin (setting : Setting) : (levels : Nat) → Runner K
  | 0, _, interpreter => interpreter
  | levels + 1, content, interpreter =>
    runAfreshWith setting (runAfreshWithin setting levels) content interpreter

/-- Runs a stream, and the streams within it, with every font read when it is selected. -/
def runAfresh (setting : Setting) : Runner K := fun content interpreter =>
  runAfreshWithin setting (setting.options.depthLimit - interpreter.state.depth + 1) content
    interpreter

end Interpretation

namespace Extraction

def traceAfresh (store : ObjectStore) (options : ExtractionOptions) : List (Event K) :=
  let setting : Setting := ⟨store, options⟩
  let ids := PageTree.pages store
  (Interpreter.start.pagesWith (Interpretation.runAfresh setting) setting ids.length 0
    ids).events.toList

def eventsAfresh (store : ObjectStore) (options : ExtractionOptions) : List (Event K) :=
  reported (traceAfresh store options)

/-- The document that is extracted with every font read when it is selected. -/
def documentAfresh (store : ObjectStore) (options : ExtractionOptions) (source? : Option String) :
    Option (Assembly K) :=
  assembled source? options.places? (traceAfresh store options)

end Extraction

/-! ### The same run with fonts kept -/

namespace Interpretation

variable {store : ObjectStore} {options otherOptions : ExtractionOptions}
  {rendition : Rendition K store options otherOptions} {first second : Runner K}
  {turn : PageTurn K}
  (forgets : ∀ {fonts otherFonts}, rendition.agree fonts otherFonts → rendition.agree fonts [])

include forgets

theorem mirrors_stepAfresh (nested : first.Mirrors rendition second) {one other : Progress K}
    (mirrors : one.Mirrors rendition turn other) (token : Token K) :
    (step ⟨⟨store, options⟩, first⟩ one token).Mirrors rendition turn
      (stepAfresh ⟨⟨store, otherOptions⟩, second⟩ other token) := by
  have forgot : Progress.Mirrors rendition turn one
      { other with interpreter := other.interpreter.forgetFonts } :=
    { mirrors with
      interpreter := { mirrors.interpreter with fonts := forgets mirrors.interpreter.fonts } }
  exact mirrors_step nested forgot token

theorem mirrors_runAfreshWith (nested : first.Mirrors rendition second) :
    (runWith ⟨store, options⟩ first).Mirrors rendition
      (runAfreshWith ⟨store, otherOptions⟩ second) := by
  intro turn one other content mirrors
  let lexed : Content.Lexed K := Content.tokens content
  have started : Progress.Mirrors rendition turn ⟨one, [], 0⟩ ⟨other, [], 0⟩ := ⟨mirrors, rfl, rfl⟩
  have reached := started.foldl (mirrors_stepAfresh forgets nested) lexed.tokens.toList
  simp only [Array.foldl_toList] at reached
  exact reached.finish lexed.fault? mirrors.site

theorem mirrors_runAfreshWithin (levels : Nat) :
    (runWithin ⟨store, options⟩ levels).Mirrors rendition
      (runAfreshWithin ⟨store, otherOptions⟩ levels) := by
  induction levels with
  | zero =>
      intro turn one other content mirrors
      exact mirrors
  | succ levels ih =>
      intro turn one other content mirrors
      exact mirrors_runAfreshWith forgets ih content mirrors

theorem mirrors_runAfresh :
    (run ⟨store, options⟩).Mirrors rendition (runAfresh ⟨store, otherOptions⟩) := by
  intro turn one other content mirrors
  simp only [run, runAfresh]
  rw [mirrors.reads StreamState.depth (fun _ => rfl), rendition.depthLimit]
  exact mirrors_runAfreshWithin forgets _ content mirrors

end Interpretation

omit [Scalar K] in
theorem Event.map_behind_zero (events : List (Event K)) : events.map (Event.behind 0) = events := by
  have unchanged : Event.behind (K := K) 0 = id := by
    funext event
    cases event <;> rfl
  rw [unchanged, List.map_id]

namespace Extraction

theorem trace_seen {store : ObjectStore} {look : Font → Font}
    (same : Typeface.SameUnderNames K store look) (options : ExtractionOptions) :
    (trace store options : List (Event K)).map (Event.seen look) =
      (traceAfresh store options).map (Event.seen look) := by
  let rendition : Rendition K store options options := .later store options same 0
  have sound : FontCache.Sound store look (Interpreter.start : Interpreter K).fonts :=
    FontCache.sound_nil store look
  have forgets {fonts otherFonts} (agree : rendition.agree fonts otherFonts) :
      rendition.agree fonts [] := ⟨agree.1, FontCache.sound_nil store look⟩
  obtain ⟨found, afresh, foundAll, afreshAll, rendered⟩ :=
    Interpreter.renders_pagesWith (Interpretation.mirrors_runAfresh forgets) rfl rfl rfl
      ⟨sound, sound⟩ (PageTree.pages store).length 0 (PageTree.pages store)
  rw [Interpreter.pagesWith_run] at foundAll
  have all : (trace store options : List (Event K)) = found := foundAll
  have allAfresh : (traceAfresh store options : List (Event K)) = afresh := afreshAll
  rw [Rendition.filterMap_later, Event.map_behind_zero] at rendered
  rw [all, allAfresh]
  exact rendered

/-- Whether a font that was read is kept or read again makes no difference for what is found in a
document but for the names of fonts, and none if all fonts have names of their own or are selected
under no more than one. -/
theorem font_cache_is_transparent (store : ObjectStore) (options : ExtractionOptions)
    (source? : Option String) :
    (events store options : List (Event K)).map (Event.seen Font.unnamed) =
        (eventsAfresh store options).map (Event.seen Font.unnamed) ∧
      (store.NamesFontsOnce →
        (document store options source? : Option (Assembly K)) =
          documentAfresh store options source?) := by
  constructor
  · have seen := Event.isStuck_seen (K := K) Font.unnamed
    rw [events, eventsAfresh, ← reported_map seen, ← reported_map seen,
      trace_seen (Typeface.sameUnderNames_unnamed store) options]
  · intro once
    have same := trace_seen (Typeface.sameUnderNames_of_once (K := K) once) options
    rw [Event.map_seen_id, Event.map_seen_id] at same
    rw [document, documentAfresh, same]

/-- A document with a letter in a font with a name, which is selected under two names, one in a font
without a name, and one in a font that is held in place and selected twice. -/
def threeLetters : ObjectStore :=
  let key := Text.encodeUtf8
  let fonts : Object := .dictionary [(key "F", .reference ⟨5, 0⟩), (key "G", .reference ⟨5, 0⟩),
    (key "T", .reference ⟨6, 0⟩), (key "D", .dictionary [(key "Subtype", .name (key "Type1"))])]
  { objects := [
      (⟨1, 0⟩, .dictionary [(key "Pages", .reference ⟨2, 0⟩)]),
      (⟨2, 0⟩, .dictionary [(key "Kids", .array [.reference ⟨3, 0⟩])]),
      (⟨3, 0⟩, .dictionary [(key "Type", .name (key "Page")),
        (key "Resources", .dictionary [(key "Font", fonts)]), (key "Contents", .reference ⟨4, 0⟩)]),
      (⟨4, 0⟩, .stream []
        (key "BT /F 9 Tf /G 9 Tf (A) Tj /T 9 Tf (B) Tj /D 9 Tf /D 9 Tf (C) Tj ET")),
      (⟨5, 0⟩, .dictionary [(key "Subtype", .name (key "Type1")),
        (key "BaseFont", .name (key "Helvetica"))]),
      (⟨6, 0⟩, .dictionary [(key "Subtype", .name (key "Type1"))])]
    trailer := [(key "Root", .reference ⟨1, 0⟩)] }

private theorem fonts_of_threeLetters {resources : Dictionary}
    (held : threeLetters.Holds (.dictionary resources)) :
    threeLetters.dictionary? resources "ExtGState" = none ∧
      ∀ fonts, threeLetters.dictionary? resources "Font" = some fonts →
        fonts = [(Text.encodeUtf8 "F", .reference ⟨5, 0⟩), (Text.encodeUtf8 "G", .reference ⟨5, 0⟩),
          (Text.encodeUtf8 "T", .reference ⟨6, 0⟩), (Text.encodeUtf8 "D",
            .dictionary [(Text.encodeUtf8 "Subtype", .name (Text.encodeUtf8 "Type1"))])] := by
  simp only [ObjectStore.Holds, threeLetters, List.mem_cons, List.not_mem_nil, exists_eq_or_imp,
    exists_eq_left, Object.inside_iff (.dictionary _), Object.inside_iff (.array _),
    Object.inside_iff (.name _), Object.inside_iff (.reference _), Object.inside_iff (.stream _ _),
    Object.children, List.map, Object.dictionary.injEq, reduceCtorEq, false_or, or_false, false_and,
    exists_false] at held
  rcases held with rfl | rfl | (rfl | rfl | rfl | rfl) | rfl | rfl <;>
    refine ⟨rfl, fun fonts found => ?_⟩ <;> cases found
  rfl

private theorem names_of_threeLetters {name : String} {id : ObjectId}
    (given : threeLetters.GivesFontAs name (.reference id)) :
    id = ⟨5, 0⟩ ∨ id = ⟨6, 0⟩ ∧ name = "T" := by
  cases given with
  | named held listed member =>
      obtain rfl := (fonts_of_threeLetters held).2 _ listed
      simp only [Dictionary.find?, Dictionary.get?] at member
      split at member
      · cases member
        exact .inl rfl
      · split at member
        · cases member
          exact .inl rfl
        · split at member
          · next same =>
              cases member
              have names := congrArg Text.decodeUtf8 same
              rw [Text.decodeUtf8_encodeUtf8, Text.decodeUtf8_encodeUtf8] at names
              exact .inr ⟨rfl, names.symm⟩
          · split at member <;> cases member
  | parameter held listed _ _ => cases (fonts_of_threeLetters held).1.symm.trans listed

private theorem namesFontsOnce_threeLetters : threeLetters.NamesFontsOnce := by
  intro id font name other given givenAgain found
  rcases names_of_threeLetters given with rfl | ⟨rfl, rfl⟩
  · cases found
    exact .inl ⟨_, rfl⟩
  · rcases names_of_threeLetters givenAgain with ⟨⟨⟩⟩ | ⟨-, rfl⟩
    exact .inr rfl

theorem kept_fonts_of_three_letters_are_transparent :
    let found : List (Event Float) := events threeLetters {}
    (Event.characters found).length = 3 ∧ threeLetters.NamesFontsOnce ∧
      (document threeLetters {} none : Option (Assembly Float)) =
        documentAfresh threeLetters {} none := by
  intro found
  have root : PageTree.root? threeLetters = some ⟨2, 0⟩ := by decide +kernel
  have kids : PageTree.children threeLetters ⟨2, 0⟩ = [.reference ⟨3, 0⟩] := rfl
  have objects : threeLetters.objects.length = 6 := rfl
  have first : (threeLetters.dictionary ⟨3, 0⟩).toOption.bind PageTree.nodeType? =
      some "Page" := by
    decide +kernel
  have pages : PageTree.pages threeLetters = [⟨3, 0⟩] := by
    simp only [PageTree.pages, root, kids, objects, PageTree.pagesFrom, PageTree.pagesFrom.visit,
      Object.reference?, first, if_true]
  refine ⟨?_, namesFontsOnce_threeLetters, ?_⟩
  · simp only [found, events, trace, pages]
    decide +kernel
  · exact (font_cache_is_transparent threeLetters {} none).2 namesFontsOnce_threeLetters

end Extraction

end PdfElements
