import PdfElements.Proofs.Interpretation.Continuation

/-! Forms and glyph procedures give the stream around them back as they found it, whatever they
hold and however they end. -/

set_option autoImplicit false

namespace PdfElements

variable {K : Type}

/-- An interpreter that differs from an earlier one in nothing but the fonts that were read, the
rank of the next glyph and further events. -/
structure Interpreter.Restores (before after : Interpreter K) : Prop where
  restored : after = { before with
    fonts := after.fonts, rank := after.rank, events := after.events }
  reported : ∃ added, after.events.toList = before.events.toList ++ added

private theorem Interpreter.Resumes.restores {before after : Interpreter K}
    (resumes : before.Resumes after) (state : after.state = before.state) :
    before.Restores after := by
  obtain ⟨added, events, _⟩ := resumes.reports
  refine ⟨?_, added, events⟩
  rw [← state, ← resumes.site]

namespace Interpretation

variable [Scalar K]

/-- A form that is drawn and a glyph procedure that runs, or that are refused, leave the state of
the stream around them and the operator that is executed as they were. -/
theorem nested_streams_restore_interpreter (setting : Setting) (interpreter : Interpreter K) :
    (∀ form : Located Stream,
      interpreter.Restores ((surroundings setting).drawForm form interpreter).interpreter) ∧
    (∀ (glyphs : GlyphProcedures K) (code : Nat) (rendering : Matrix K),
      interpreter.Restores
        ((surroundings setting).drawGlyph glyphs code rendering interpreter).interpreter) := by
  have nested : (surroundings (K := K) setting).nested.Resumes := resumes_run setting
  constructor
  · intro form
    obtain ⟨resumes, state⟩ := Surroundings.resumes_drawForm nested form interpreter
    exact resumes.restores state
  · intro glyphs code rendering
    obtain ⟨resumes, state⟩ := Surroundings.resumes_drawGlyph nested glyphs code rendering interpreter
    exact resumes.restores state

end Interpretation

end PdfElements
