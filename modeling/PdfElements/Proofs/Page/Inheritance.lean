import PdfElements.Page.Tree
import PdfElements.Proofs.Object.Located

/-! What a page inherits. From the page upward, the first node that decides answers: one with the
key, one without a parent, or one that is broken. Nodes that pass the question on to their parent
are climbed over, no more of them than the limit on the height of the tree. -/

set_option autoImplicit false

namespace PdfElements.PageTree

/-- A node without the key that refers to its parent. -/
def Passes (store : ObjectStore) (key : String) (id parent : ObjectId) : Prop :=
  ∃ node, store.dictionary id = .ok node ∧ node.find? key = none ∧
    node.find? "Parent" = some (.reference parent)

inductive Climbs (store : ObjectStore) (key : String) : Nat → ObjectId → ObjectId → Prop where
  | here (id : ObjectId) : Climbs store key 0 id id
  | up {steps : Nat} {id parent top : ObjectId} : Passes store key id parent →
      Climbs store key steps parent top → Climbs store key (steps + 1) id top

inductive Decides (store : ObjectStore) (key : String) (id : ObjectId) :
    Except Fault (Option Object) → Prop where
  | value {node : Dictionary} {value : Object} : store.dictionary id = .ok node →
      node.find? key = some value → Decides store key id (.ok (some value))
  | orphan {node : Dictionary} : store.dictionary id = .ok node → node.find? key = none →
      node.find? "Parent" = none → Decides store key id (.ok none)
  | node {fault : ObjectFault} : store.dictionary id = .error fault →
      Decides store key id (.error (.node fault))
  | parent {node : Dictionary} {object : Object} {fault : ObjectFault} :
      store.dictionary id = .ok node → node.find? key = none →
      node.find? "Parent" = some object → object.asReference = .error fault →
      Decides store key id (.error (.parent fault))

variable {store : ObjectStore} {key : String} {id parent top : ObjectId} {steps nodes : Nat}
  {answer : Except Fault (Option Object)}

theorem decides_or_passes (store : ObjectStore) (key : String) (id : ObjectId) :
    (∃ answer, Decides store key id answer) ∨ ∃ parent, Passes store key id parent := by
  cases read : store.dictionary id with
  | error fault => exact .inl ⟨_, .node read⟩
  | ok node =>
      cases found : node.find? key with
      | some value => exact .inl ⟨_, .value read found⟩
      | none =>
          cases above : node.find? "Parent" with
          | none => exact .inl ⟨_, .orphan read found above⟩
          | some object =>
              cases referred : object.asReference with
              | error fault => exact .inl ⟨_, .parent read found above referred⟩
              | ok parent =>
                  cases object with
                  | reference target => exact .inr ⟨target, node, read, found, above⟩
                  | _ => cases referred

/-! ### One node -/

/-- The question as it passes from node to node, without the places of what is found. -/
private theorem inheritedFrom_succ (store : ObjectStore) (key : String) (nodes : Nat)
    (id : ObjectId) :
    inheritedFrom store key (nodes + 1) id = (store.dictionary id).mapError .node >>= fun node =>
      match node.find? key, node.find? "Parent" with
      | some value, _ => .ok (some value)
      | none, none => .ok none
      | none, some parent =>
        parent.asReference.mapError .parent >>= inheritedFrom store key nodes := by
  rw [inheritedFrom, inheritedAt, store.dictionary_eq]
  cases store.dictionaryAt id with
  | error fault => rfl
  | ok node =>
      simp only [Except.mapError, Except.map, bind, Except.bind, ← Located.value_find?]
      cases node.find? key with
      | some value => rfl
      | none =>
          cases node.find? "Parent" with
          | none => rfl
          | some parent =>
              simp only [Option.map_none, Option.map_some]
              cases parent.value.asReference <;> rfl

theorem inheritedFrom_of_decides (decides : Decides store key id answer) (nodes : Nat) :
    inheritedFrom store key (nodes + 1) id = answer := by
  cases decides with
  | value read found =>
      rw [inheritedFrom_succ, read]
      simp only [Except.mapError, bind, Except.bind, found]
  | orphan read found above =>
      rw [inheritedFrom_succ, read]
      simp only [Except.mapError, bind, Except.bind, found, above]
  | node read =>
      rw [inheritedFrom_succ, read]
      rfl
  | parent read found above referred =>
      rw [inheritedFrom_succ, read]
      simp only [Except.mapError, bind, Except.bind, found, above, referred]

theorem inheritedFrom_of_passes (passes : Passes store key id parent) (nodes : Nat) :
    inheritedFrom store key (nodes + 1) id = inheritedFrom store key nodes parent := by
  obtain ⟨node, read, found, above⟩ := passes
  rw [inheritedFrom_succ, read]
  simp only [Except.mapError, bind, Except.bind, found, above]
  rfl

/-! ### Nodes above each other -/

namespace Climbs

theorem trans {more : Nat} (first : Climbs store key steps id parent)
    (second : Climbs store key more parent top) : Climbs store key (steps + more) id top := by
  induction first with
  | here => rwa [Nat.zero_add]
  | up passes _ ih =>
      rw [Nat.add_right_comm]
      exact .up passes (ih second)

/-- Who climbs far has climbed less far before. -/
theorem split {more : Nat} (climbs : Climbs store key (steps + more) id top) :
    ∃ middle, Climbs store key steps id middle ∧ Climbs store key more middle top := by
  induction steps generalizing id with
  | zero => exact ⟨id, .here id, Nat.zero_add more ▸ climbs⟩
  | succ steps ih =>
      rw [Nat.add_right_comm] at climbs
      cases climbs with
      | up passes rest =>
          obtain ⟨middle, lower, upper⟩ := ih rest
          exact ⟨middle, .up passes lower, upper⟩

theorem around (climbs : Climbs store key steps id id) (rounds : Nat) :
    Climbs store key (rounds * steps) id id := by
  induction rounds with
  | zero =>
      rw [Nat.zero_mul]
      exact .here id
  | succ rounds ih =>
      rw [Nat.succ_mul]
      exact ih.trans climbs

theorem unique {other : ObjectId} (first : Climbs store key steps id top)
    (second : Climbs store key steps id other) : other = top := by
  induction first with
  | here =>
      cases second
      rfl
  | up passes _ ih =>
      cases second with
      | up otherPasses rest =>
          obtain ⟨node, read, _, above⟩ := passes
          obtain ⟨otherNode, otherRead, _, otherAbove⟩ := otherPasses
          cases read.symm.trans otherRead
          cases above.symm.trans otherAbove
          exact ih rest

/-- Whoever comes by a node twice goes on without end. -/
theorem endless {near far : Nat} (before : near < far) (first : Climbs store key near id top)
    (again : Climbs store key far id top) (steps : Nat) :
    ∃ reached, Climbs store key steps id reached := by
  obtain ⟨more, rfl⟩ := Nat.exists_eq_add_of_lt before
  rw [Nat.add_assoc] at again
  obtain ⟨middle, lower, round⟩ := split again
  obtain rfl := first.unique lower
  have far : steps ≤ near + steps * (more + 1) :=
    Nat.le_add_left_of_le (Nat.le_mul_of_pos_right steps more.succ_pos)
  obtain ⟨rest, total⟩ := Nat.exists_eq_add_of_le far
  have onward := first.trans (round.around steps)
  rw [total] at onward
  obtain ⟨reached, climbs, _⟩ := split onward
  exact ⟨reached, climbs⟩

theorem congr {other : ObjectStore} (climbs : Climbs store key steps id top)
    (same : ∀ lower < steps, ∀ visited, Climbs store key lower id visited →
      other.dictionary visited = store.dictionary visited) : Climbs other key steps id top := by
  induction climbs with
  | here => exact .here _
  | @up steps id parent top passes _ ih =>
      have stays : Passes other key id parent := by
        obtain ⟨node, read, rest⟩ := passes
        exact ⟨node, (same 0 steps.succ_pos id (.here id)).trans read, rest⟩
      refine .up stays (ih ?_)
      intro lower less visited climbs
      exact same (lower + 1) (Nat.succ_lt_succ less) visited (.up passes climbs)

end Climbs

/-! ### The answer -/

theorem inheritedFrom_of_climbs_decides (climbs : Climbs store key steps id top)
    (decides : Decides store key top answer) (within : steps < nodes) :
    inheritedFrom store key nodes id = answer := by
  induction climbs generalizing nodes with
  | here =>
      cases nodes with
      | zero => cases within
      | succ nodes => exact inheritedFrom_of_decides decides nodes
  | up passes _ ih =>
      cases nodes with
      | zero => cases within
      | succ nodes =>
          rw [inheritedFrom_of_passes passes]
          exact ih decides (Nat.lt_of_succ_lt_succ within)

theorem inheritedFrom_of_climbs (climbs : Climbs store key nodes id top) :
    inheritedFrom store key nodes id = .ok none := by
  induction climbs with
  | here => rfl
  | up passes _ ih => rw [inheritedFrom_of_passes passes, ih]

/-- One of the nodes decides, or all of them pass the question on. -/
theorem decides_or_climbs (store : ObjectStore) (key : String) (nodes : Nat) (id : ObjectId) :
    (∃ steps < nodes, ∃ top answer, Climbs store key steps id top ∧ Decides store key top answer) ∨
      ∃ top, Climbs store key nodes id top := by
  induction nodes generalizing id with
  | zero => exact .inr ⟨id, .here id⟩
  | succ nodes ih =>
      rcases decides_or_passes store key id with ⟨answer, decides⟩ | ⟨parent, passes⟩
      · exact .inl ⟨0, nodes.succ_pos, id, answer, .here id, decides⟩
      · rcases ih parent with ⟨steps, within, top, answer, climbs, decides⟩ | ⟨top, climbs⟩
        · exact .inl ⟨steps + 1, Nat.succ_lt_succ within, top, answer, .up passes climbs, decides⟩
        · exact .inr ⟨top, .up passes climbs⟩

theorem inheritedFrom_eq_iff :
    inheritedFrom store key nodes id = answer ↔
      (∃ steps < nodes, ∃ top, Climbs store key steps id top ∧ Decides store key top answer) ∨
        answer = .ok none ∧ ∃ top, Climbs store key nodes id top := by
  constructor
  · rintro rfl
    rcases decides_or_climbs store key nodes id with
      ⟨steps, within, top, answer, climbs, decides⟩ | ⟨top, climbs⟩
    · rw [inheritedFrom_of_climbs_decides climbs decides within]
      exact .inl ⟨steps, within, top, climbs, decides⟩
    · exact .inr ⟨inheritedFrom_of_climbs climbs, top, climbs⟩
  · rintro (⟨steps, within, top, climbs, decides⟩ | ⟨rfl, top, climbs⟩)
    · exact inheritedFrom_of_climbs_decides climbs decides within
    · exact inheritedFrom_of_climbs climbs

/-- A node that neither answers nor passes the question on: no dictionary, or without the key and
with a parent that is no reference. -/
def IsBroken (store : ObjectStore) (key : String) (id : ObjectId) : Prop :=
  (∃ fault, store.dictionary id = .error fault) ∨
    ∃ node object, store.dictionary id = .ok node ∧ node.find? key = none ∧
      node.find? "Parent" = some object ∧ object.reference? = none

theorem isBroken_iff_decides :
    IsBroken store key id ↔ ∃ fault, Decides store key id (.error fault) := by
  constructor
  · rintro (⟨fault, read⟩ | ⟨node, object, read, found, above, unreferred⟩)
    · exact ⟨_, .node read⟩
    · have referred : object.asReference = .error (.wrongKind [.reference] object.kind) := by
        rw [Object.asReference, unreferred]
        rfl
      exact ⟨_, .parent read found above referred⟩
  · rintro ⟨fault, decides⟩
    cases decides with
    | node read => exact .inl ⟨_, read⟩
    | @parent node object _ read found above referred =>
        refine .inr ⟨node, object, read, found, above, ?_⟩
        cases object with
        | reference => cases referred
        | _ => rfl

/-- Of the page and the nodes above it, no more than 64 in all, the first one that decides answers:
with its value, whatever that is and whatever stands above, with no value if it has no parent, or
with an error. If none of them decides, as on a cycle, there is no value. -/
theorem first_deciding_node_answers (store : ObjectStore) (page : ObjectId) (key : String) :
    (∀ answer, inherited store page key = answer ↔
      (∃ steps < 64, ∃ id, Climbs store key steps page id ∧ Decides store key id answer) ∨
        answer = .ok none ∧ ∃ top, Climbs store key 64 page top) ∧
    ((∃ fault, inherited store page key = .error fault) ↔
      ∃ steps < 64, ∃ id, Climbs store key steps page id ∧ IsBroken store key id) ∧
    (∀ near far id, near < far → Climbs store key near page id → Climbs store key far page id →
      inherited store page key = .ok none) ∧
    ∀ steps < 64, ∀ id node value, Climbs store key steps page id →
      store.dictionary id = .ok node → node.find? key = some value →
      ∀ other : ObjectStore,
        (∀ lower ≤ steps, ∀ visited, Climbs store key lower page visited →
          other.dictionary visited = store.dictionary visited) →
        inherited other page key = .ok (some value) := by
  refine ⟨fun answer => inheritedFrom_eq_iff, ?_, ?_, ?_⟩
  · constructor
    · rintro ⟨fault, failed⟩
      rcases inheritedFrom_eq_iff.mp failed with
        ⟨steps, within, id, climbs, decides⟩ | ⟨impossible, _⟩
      · exact ⟨steps, within, id, climbs, isBroken_iff_decides.mpr ⟨fault, decides⟩⟩
      · cases impossible
    · rintro ⟨steps, within, id, climbs, broken⟩
      obtain ⟨fault, decides⟩ := isBroken_iff_decides.mp broken
      exact ⟨fault, inheritedFrom_of_climbs_decides climbs decides within⟩
  · intro near far id before first again
    obtain ⟨top, climbs⟩ := first.endless before again heightLimit
    exact inheritedFrom_of_climbs climbs
  · intro steps within id node value climbs read found other same
    have otherClimbs : Climbs other key steps page id :=
      climbs.congr fun lower less => same lower (Nat.le_of_lt less)
    have otherRead : other.dictionary id = .ok node :=
      (same steps (Nat.le_refl steps) id climbs).trans read
    exact inheritedFrom_of_climbs_decides otherClimbs (.value otherRead found) within

def entangledPages : ObjectStore where
  objects :=
    let reference (number : Nat) : List UInt8 × Object :=
      (Text.encodeUtf8 "Parent", .reference ⟨number, 0⟩)
    [(⟨1, 0⟩, .dictionary [(Text.encodeUtf8 "MediaBox", .null), reference 2]),
      (⟨2, 0⟩, .dictionary [(Text.encodeUtf8 "MediaBox",
        .array [.integer 0, .integer 0, .integer 9, .integer 9])]),
      (⟨3, 0⟩, .dictionary [reference 4]),
      (⟨4, 0⟩, .dictionary [reference 3])]
  trailer := []

theorem null_hides_box_and_cycle_has_none :
    inherited entangledPages ⟨1, 0⟩ "MediaBox" = .ok (some .null) ∧
      inherited entangledPages ⟨3, 0⟩ "MediaBox" = .ok none := by
  have up : Passes entangledPages "MediaBox" ⟨3, 0⟩ ⟨4, 0⟩ := ⟨_, rfl, rfl, rfl⟩
  have back : Passes entangledPages "MediaBox" ⟨4, 0⟩ ⟨3, 0⟩ := ⟨_, rfl, rfl, rfl⟩
  constructor
  · obtain ⟨answers, _⟩ := first_deciding_node_answers entangledPages ⟨1, 0⟩ "MediaBox"
    exact (answers _).mpr (.inl ⟨0, by decide, ⟨1, 0⟩, .here _, .value rfl rfl⟩)
  · obtain ⟨_, _, cycles, _⟩ := first_deciding_node_answers entangledPages ⟨3, 0⟩ "MediaBox"
    exact cycles 0 2 ⟨3, 0⟩ (by decide) (.here _) (.up up (.up back (.here _)))

end PdfElements.PageTree
