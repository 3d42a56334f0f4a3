import PdfElements.Proofs.Interpretation.StrayOperands

/-! Painting paths. Every painting operator ends the path: it clips to the bounds of the path if
that is pending, and reports these bounds once for each way in which it paints. Closing the path
first leaves the bounds alone, and an operator that paints twice paints the same path again, for
which nothing is left to clip. -/

set_option autoImplicit false

namespace PdfElements

variable {K : Type}

/-- The painting operators with the colors in which they paint the path, one after the other. -/
def paintingOperators : List (String × List ColorRole) := [
  ("S", [.stroking]), ("s", [.stroking]), ("f", [.filling]), ("F", [.filling]), ("f*", [.filling]),
  ("B", [.filling, .stroking]), ("B*", [.filling]), ("b", [.filling, .stroking]),
  ("b*", [.filling]), ("n", [])]

def Paint.role : Paint → ColorRole
  | .stroke => .stroking
  | .fill _ => .filling

variable [Scalar K]

theorem Path.bounds?_close (path : Path K) : path.close.bounds? = path.bounds? := by
  unfold Path.close Path.bounds? Segment.bounds?
  split
  · rfl
  · simp [Segment.points]

namespace GraphicsState

/-- Behind a path with the given bounds: no clip is pending, and one that was pending is done. -/
def behindPath (graphics : GraphicsState K) (bounds? : Option (Rect K)) : GraphicsState K :=
  { graphics with
    pendingClip? := none
    clipBox := match graphics.pendingClip?, bounds? with
      | some _, some bounds => (graphics.clipBox.intersection? bounds).getD .empty
      | _, _ => graphics.clipBox }

theorem applyClip_eq (graphics : GraphicsState K) (bounds? : Option (Rect K)) :
    graphics.applyClip bounds? = graphics.behindPath bounds? := by
  unfold applyClip behindPath
  cases graphics with
  | mk matrix stroking filling text pendingClip? clipBox =>
      cases pendingClip? with
      | none => rfl
      | some rule => cases bounds? <;> rfl

/-- A clip is done once: another path with the same bounds leaves the clip box alone. -/
theorem behindPath_behindPath (graphics : GraphicsState K) (bounds? : Option (Rect K)) :
    (graphics.behindPath bounds?).behindPath bounds? = graphics.behindPath bounds? := rfl

omit [Scalar K] in
theorem ink_eq_inkOf (graphics : GraphicsState K) (paint : Paint) :
    graphics.ink paint = graphics.inkOf paint.role := by
  cases paint <;> rfl

theorem inkOf_behindPath (graphics : GraphicsState K) (bounds? : Option (Rect K))
    (role : ColorRole) : (graphics.behindPath bounds?).inkOf role = graphics.inkOf role := by
  cases role <;> rfl

end GraphicsState

namespace Interpreter

/-- What is reported when the path is painted in some colors. -/
def outlines (setting : Setting) (interpreter : Interpreter K) (roles : List ColorRole) :
    List (Event K) :=
  match interpreter.state.path.bounds? with
  | none => []
  | some bounds => roles.map fun role =>
    .shape ⟨interpreter.state.page, bounds.rounded setting.options.places?,
      (interpreter.state.current.inkOf role).color⟩

/-- Behind the path, which was painted in some colors. -/
def behindPath (setting : Setting) (interpreter : Interpreter K) (roles : List ColorRole) :
    Interpreter K :=
  { interpreter with
    state := { interpreter.state.modify fun graphics =>
        graphics.behindPath interpreter.state.path.bounds? with path := .empty }
    events := interpreter.events ++ interpreter.outlines setting roles }

theorem behindPath_cons (setting : Setting) (interpreter : Interpreter K) (role : ColorRole)
    (roles : List ColorRole) :
    ((interpreter.behindPath setting [role]).modify
        fun state => { state with path := interpreter.state.path }).behindPath setting roles =
      interpreter.behindPath setting (role :: roles) := by
  unfold behindPath outlines
  cases bounds : interpreter.state.path.bounds? with
  | none => simp [modify, StreamState.modify, GraphicsStack.modify, bounds,
      GraphicsState.behindPath_behindPath]
  | some box => simp [modify, StreamState.modify, GraphicsStack.modify, bounds,
      StreamState.current, GraphicsState.inkOf_behindPath, GraphicsState.behindPath_behindPath]

theorem behindPath_close (setting : Setting) (interpreter : Interpreter K)
    (roles : List ColorRole) :
    (interpreter.modify fun state => { state with path := state.path.close }).behindPath setting
        roles = interpreter.behindPath setting roles := by
  unfold behindPath outlines
  simp only [modify, Path.bounds?_close]
  rfl

end Interpreter

namespace Surroundings

/-- Painting a path in several ways is painting it in the first one, putting it back and painting it
in the others. -/
theorem paintPath_cons (surroundings : Surroundings K) (paint : Paint) (paints : List Paint)
    (interpreter : Interpreter K) :
    surroundings.paintPath (paint :: paints) interpreter =
      surroundings.paintPath paints ((surroundings.paintPath [paint] interpreter).modify
        fun state => { state with path := interpreter.state.path }) := by
  cases bounds : interpreter.state.path.bounds? with
  | none =>
      simp only [paintPath, bounds, Interpreter.modify, StreamState.modify, GraphicsStack.modify,
        GraphicsState.applyClip_eq, GraphicsState.behindPath_behindPath]
  | some box =>
      simp only [paintPath, bounds, Interpreter.modify, StreamState.modify, GraphicsStack.modify,
        GraphicsState.applyClip_eq, List.foldl_cons, List.foldl_nil, Interpreter.sendShape,
        Interpreter.send, GraphicsState.behindPath_behindPath, StreamState.current]

theorem paintPath_nil (surroundings : Surroundings K) (interpreter : Interpreter K) :
    surroundings.paintPath [] interpreter = interpreter.behindPath surroundings.setting [] := by
  unfold paintPath Interpreter.behindPath Interpreter.outlines
  cases interpreter.state.path.bounds? <;>
    simp [Interpreter.modify, GraphicsState.applyClip_eq]

theorem paintPath_single (surroundings : Surroundings K) (paint : Paint)
    (interpreter : Interpreter K) :
    surroundings.paintPath [paint] interpreter =
      interpreter.behindPath surroundings.setting [paint.role] := by
  unfold paintPath Interpreter.behindPath Interpreter.outlines
  cases bounds : interpreter.state.path.bounds? with
  | none => simp [Interpreter.modify, GraphicsState.applyClip_eq]
  | some box =>
      simp [Interpreter.modify, Interpreter.sendShape, Interpreter.send, StreamState.current,
        StreamState.modify, GraphicsStack.modify, GraphicsState.applyClip_eq,
        GraphicsState.ink_eq_inkOf, GraphicsState.inkOf_behindPath]

/-- Painting reports one outline of the path for each way in which it paints. -/
theorem paintPath_eq_behindPath (surroundings : Surroundings K) (paints : List Paint)
    (interpreter : Interpreter K) :
    surroundings.paintPath paints interpreter =
      interpreter.behindPath surroundings.setting (paints.map Paint.role) := by
  induction paints generalizing interpreter with
  | nil => exact surroundings.paintPath_nil interpreter
  | cons paint rest ih =>
      rw [paintPath_cons, paintPath_single, ih, Interpreter.behindPath_cons, List.map_cons]

/-- What a painting operator does: some close the path, and all of them paint it. -/
theorem handle_painting (surroundings : Surroundings K) {name : String} {roles : List ColorRole}
    (paints : (name, roles) ∈ paintingOperators) :
    ∃ operator, Operator.ofName? name = some operator ∧
      ∀ operands interpreter, surroundings.handle operator operands interpreter =
        .done (interpreter.behindPath surroundings.setting roles) := by
  have painted (operator : Operator) (ways : List Paint) (operands : List (Operand K))
      (read : operator.read operands = .ok [⟨operator, .paint ways⟩]) (interpreter : Interpreter K) :
      surroundings.handle operator operands interpreter =
        .done (interpreter.behindPath surroundings.setting (ways.map Paint.role)) := by
    rw [handle, read]
    simp only [executeAll, execute, Outcome.result_done, Outcome.interpreter_done,
      paintPath_eq_behindPath]
  have closed (operator : Operator) (ways : List Paint) (operands : List (Operand K))
      (read : operator.read operands = .ok [⟨operator, .closePath⟩, ⟨operator, .paint ways⟩])
      (interpreter : Interpreter K) :
      surroundings.handle operator operands interpreter =
        .done (interpreter.behindPath surroundings.setting (ways.map Paint.role)) := by
    rw [handle, read]
    simp only [executeAll, execute, Outcome.result_done, Outcome.interpreter_done,
      paintPath_eq_behindPath, Interpreter.behindPath_close]
  simp only [paintingOperators, List.mem_cons, Prod.mk.injEq, List.not_mem_nil, or_false] at paints
  rcases paints with ⟨rfl, rfl⟩ | ⟨rfl, rfl⟩ | ⟨rfl, rfl⟩ | ⟨rfl, rfl⟩ | ⟨rfl, rfl⟩ | ⟨rfl, rfl⟩ |
    ⟨rfl, rfl⟩ | ⟨rfl, rfl⟩ | ⟨rfl, rfl⟩ | ⟨rfl, rfl⟩
  · exact ⟨.stroke, rfl, fun _ => painted _ [.stroke] _ rfl⟩
  · exact ⟨.closeStroke, rfl, fun _ => closed _ [.stroke] _ rfl⟩
  · exact ⟨.fill, rfl, fun _ => painted _ [.fill .nonZero] _ rfl⟩
  · exact ⟨.fillObsolete, rfl, fun _ => painted _ [.fill .nonZero] _ rfl⟩
  · exact ⟨.fillEvenOdd, rfl, fun _ => painted _ [.fill .evenOdd] _ rfl⟩
  · exact ⟨.fillStroke, rfl, fun _ => painted _ [.fill .nonZero, .stroke] _ rfl⟩
  · exact ⟨.fillStrokeEvenOdd, rfl, fun _ => painted _ [.fill .evenOdd] _ rfl⟩
  · exact ⟨.closeFillStroke, rfl, fun _ => closed _ [.fill .nonZero, .stroke] _ rfl⟩
  · exact ⟨.closeFillStrokeEvenOdd, rfl, fun _ => closed _ [.fill .evenOdd] _ rfl⟩
  · exact ⟨.endPath, rfl, fun _ => painted _ [] _ rfl⟩

/-- A painting operator, whatever its operands, reports the bounds of the path in its colors, or
nothing when there is no path; behind it the path is gone, a clip that was pending is done once, and
all else is as it was. -/
theorem painting_reports_outlines_and_ends_path (surroundings : Surroundings K) {name : String}
    {roles : List ColorRole} (paints : (name, roles) ∈ paintingOperators)
    (operands : List (Operand K)) (index : Nat) (interpreter : Interpreter K) :
    surroundings.dispatch name operands index interpreter =
      (interpreter.moveTo ⟨Operator.ofName? name, index⟩).behindPath surroundings.setting roles := by
  obtain ⟨operator, known, handled⟩ := surroundings.handle_painting paints
  unfold dispatch
  simp only [known, handled, Outcome.result_done, Outcome.interpreter_done]

/-- A square in a page that is to be clipped, where strokes are red. -/
def clippingSquare : Interpreter Float :=
  Interpreter.start.modify fun state =>
    { state.modify fun graphics => { graphics with
        stroking := ⟨.rgb, ⟨255, 0, 0⟩⟩
        pendingClip? := some .nonZero
        clipBox := ⟨5, 5, 20, 20⟩ } with
      path := Path.empty.rectangle .identity 0 0 10 10 }

theorem square_is_filled_stroked_and_clipped_once :
    let surroundings : Surroundings Float := ⟨⟨⟨[], []⟩, {}⟩, fun _ interpreter => interpreter⟩
    let after := surroundings.dispatch "b" [] 0 clippingSquare
    ("b", [.filling, .stroking]) ∈ paintingOperators ∧
      after.events = #[.shape ⟨0, ⟨0, 0, 10, 10⟩, .black⟩, .shape ⟨0, ⟨0, 0, 10, 10⟩, ⟨255, 0, 0⟩⟩] ∧
      after.state.current.clipBox = ⟨5, 5, 10, 10⟩ ∧ after.state.path = ⟨#[], none, none⟩ := by
  intro surroundings after
  have paints : ("b", [.filling, .stroking]) ∈ paintingOperators := by decide
  have painted : after = _ :=
    surroundings.painting_reports_outlines_and_ends_path paints [] 0 clippingSquare
  rw [painted]
  exact ⟨paints, by decide +kernel, by decide +kernel, rfl⟩

end Surroundings

end PdfElements
