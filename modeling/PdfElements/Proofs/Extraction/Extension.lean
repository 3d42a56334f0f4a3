import PdfElements.Extraction
import PdfElements.Proofs.Content.Lexing
import PdfElements.Proofs.Interpretation.Alike

/-! Content that grows at its end. The elements of a page are found from the front: what follows
the content, behind white space, can only add to them. -/

set_option autoImplicit false

namespace PdfElements

variable {K : Type}

namespace Interpreter

theorem Continues.elements_onward {before after : Interpreter K}
    (continues : before.Continues after) : before.elements <+: after.elements := by
  obtain ⟨added, events, _⟩ := continues.reports
  unfold elements
  rw [events, List.filter_append]
  exact List.prefix_append _ _

end Interpreter

namespace Interpretation

theorem elements_finish (setting : Setting) (fault? : Option Content.LexFault)
    (progress : Progress K) :
    (finish setting fault? progress).elements = progress.interpreter.elements := by
  cases fault? with
  | none => rfl
  | some fault => exact Interpreter.elements_warn setting _ _

variable [Scalar K]

theorem elements_runWith (setting : Setting) (nested : Runner K) (content : List UInt8)
    (interpreter : Interpreter K) :
    (runWith setting nested content interpreter).elements =
      ((Content.tokens content).tokens.toList.foldl (step ⟨setting, nested⟩)
        ⟨interpreter, [], 0⟩).interpreter.elements := by
  rw [Array.foldl_toList]
  exact elements_finish setting _ _

/-- More tokens only add elements, whatever ends the two streams. -/
theorem elements_runWith_prefix (setting : Setting) {nested : Runner K} (resumes : nested.Resumes)
    {earlier whole : List UInt8}
    (tokens : (Content.tokens (K := K) earlier).tokens.toList <+:
      (Content.tokens whole).tokens.toList) (interpreter : Interpreter K) :
    (runWith setting nested earlier interpreter).elements <+:
      (runWith setting nested whole interpreter).elements := by
  obtain ⟨more, split⟩ := tokens
  rw [elements_runWith, elements_runWith, ← split, List.foldl_append]
  have inner : (Surroundings.mk setting nested).nested.Resumes := resumes
  exact (continues_steps inner more _).elements_onward

end Interpretation

namespace Interpreter

open Interpretation

variable [Scalar K]

theorem elements_runPage (setting : Setting) (number : Nat) (source : PageSource K)
    (interpreter : Interpreter K) :
    let started := { interpreter with
        state := .initial number source.cropBox source.resources }.send
      (.pageStart number source.mediaBox.width source.mediaBox.height)
    (interpreter.runPage setting number source).elements =
      (run setting source.content started).elements := by
  intro started
  unfold runPage
  rw [elements_send]
  exact List.append_nil _

/-- What follows the content of a page, behind white space, changes neither the tokens nor the
elements before it. It may hold the end of the content in error, and so may the content itself. -/
theorem later_content_only_adds (setting : Setting) (number : Nat) (source : PageSource K)
    (interpreter : Interpreter K) (earlier later : List UInt8) (separator : UInt8)
    (blank : Content.isBlank separator = true) :
    (Content.tokens (K := K) earlier).tokens.toList <+:
        (Content.tokens (earlier ++ separator :: later)).tokens.toList ∧
      (interpreter.runPage setting number { source with content := earlier }).elements <+:
        (interpreter.runPage setting number
          { source with content := earlier ++ separator :: later }).elements := by
  have tokens := Content.tokens_prefix (K := K) earlier later blank
  refine ⟨tokens, ?_⟩
  rw [elements_runPage, elements_runPage]
  exact elements_runWith_prefix setting (resumes_runWithin setting _) tokens _

/-- A page that fills a rectangle, `0 0 5 5 re f`, before what opens a string and leaves it open. -/
theorem open_string_leaves_rectangle :
    let setting : Setting := ⟨⟨[], []⟩, {}⟩
    let earlier : List UInt8 :=
      [0x30, 0x20, 0x30, 0x20, 0x35, 0x20, 0x35, 0x20, 0x72, 0x65, 0x20, 0x66]
    let whole : List UInt8 := earlier ++ 0x0A :: [0x28]
    let lexed (content : List UInt8) : Content.Lexed Float := Content.tokens content
    let shown (content : List UInt8) : List (Event Float) :=
      (start.runPage setting 1 { PageSource.blank with content := content }).elements
    Content.isBlank 0x0A = true ∧ (lexed whole).fault? = some .unterminatedLiteral ∧
      (shown earlier).length = 1 ∧ (lexed earlier).tokens.toList <+: (lexed whole).tokens.toList ∧
      shown earlier <+: shown whole :=
  ⟨rfl, by decide +kernel, by decide +kernel,
    later_content_only_adds _ 1 .blank start _ [0x28] 0x0A rfl⟩

end Interpreter

end PdfElements
