import Mathlib.Data.Fintype.Card
import PdfElements.ColorSpace
import PdfElements.Proofs.Object.Inside

/-! When reading a color space ends. A space that is part of itself is read without end; there is
no other obstacle, because a document has finitely many objects. -/

set_option autoImplicit false

namespace PdfElements.ColorSpace

open Relation

/-- To read the space that an object describes, the space of a part of it is read. -/
def Needs (store : ObjectStore) (object part : Object) : Prop :=
  ∃ complete, describe store object = .within part complete

private theorem ofPart_within {part? : Option Object}
    {change complete : Option ColorSpace → Option ColorSpace} {part : Object}
    (described : Description.ofPart part? change = .within part complete) : part? = some part := by
  unfold Description.ofPart at described
  cases part? with
  | none => cases described
  | some found => cases described; rfl

private theorem describeArray_within {store : ObjectStore} {items : List Object} {part : Object}
    {complete : Option ColorSpace → Option ColorSpace}
    (described : describeArray store items = .within part complete) :
    part ∈ items ∨ ∃ item ∈ items, part ∈ (store.resolve item).children := by
  have listed {index : Nat} (found : items[index]? = some part) : part ∈ items :=
    List.mem_of_getElem? found
  unfold describeArray at described
  split at described
  · cases described
  · dsimp only at described
    split at described
    · split at described
      · cases described
      · next stream found =>
          obtain ⟨object, resolved, isStream⟩ := Option.bind_eq_some_iff.mp found
          obtain ⟨item, itemFound, rfl⟩ := Option.map_eq_some_iff.mp resolved
          refine .inr ⟨item, List.mem_of_getElem? itemFound, ?_⟩
          have written := Dictionary.mem_of_get? (ofPart_within described)
          cases same : store.resolve item with
          | stream entries data =>
              rw [same] at isStream
              cases isStream
              exact written
          | _ =>
              rw [same] at isStream
              cases isStream
    · left
      split at described
      · split at described
        · cases described
        · exact listed (ofPart_within described)
      · split at described
        · exact listed (ofPart_within described)
        · split at described
          · split at described
            · cases described
            · exact listed (ofPart_within described)
          · split at described
            · exact listed (ofPart_within described)
            · cases described

/-- What a space is part of keeps to what following references and going inward keep to. -/
private theorem Needs.preserves {store : ObjectStore} (property : Object → Prop)
    (resolve : ∀ {object}, property object → property (store.resolve object))
    (child : ∀ {object inner}, property object → inner ∈ object.children → property inner)
    {object part : Object} (needs : Needs store object part) (holds : property object) :
    property part := by
  obtain ⟨complete, described⟩ := needs
  unfold describe at described
  split at described
  · cases described
  · next items resolved =>
      have array : property (.array items) := resolved ▸ resolve holds
      rcases describeArray_within described with member | ⟨item, listed, member⟩
      · exact child array member
      · exact child (resolve (child array listed)) member
  · cases described

theorem Needs.reaches {store : ObjectStore} {root object part : Object}
    (needs : Needs store object part) (reaches : store.Reaches root object) :
    store.Reaches root part :=
  needs.preserves (store.Reaches root) .resolve .child reaches

/-- Where no reference is followed, parts get smaller. -/
private theorem Needs.held_or_smaller {store : ObjectStore} {object part : Object}
    (needs : Needs store object part) : store.Holds part ∨ sizeOf part < sizeOf object := by
  have stored {inner : Object} (found : ∃ entry ∈ store.objects, entry.2 = store.resolve inner) :
      store.Holds (store.resolve inner) := by
    obtain ⟨entry, listed, same⟩ := found
    exact ⟨entry, listed, same ▸ .refl⟩
  obtain ⟨complete, described⟩ := needs
  unfold describe at described
  split at described
  · cases described
  · next items resolved =>
      rcases store.resolve_eq_or_stored object with same | found
      · obtain rfl : object = .array items := same.symm.trans resolved
        rcases describeArray_within described with member | ⟨item, listed, member⟩
        · exact .inr (Object.sizeOf_child_lt member)
        · rcases store.resolve_eq_or_stored item with itself | found
          · have inner : sizeOf part < sizeOf item := Object.sizeOf_child_lt (itself ▸ member)
            have written : item ∈ (Object.array items).children := listed
            have outer : sizeOf item < sizeOf (Object.array items) :=
              Object.sizeOf_child_lt written
            exact .inr (inner.trans outer)
          · exact .inl ((stored found).child member)
      · have array : store.Holds (.array items) := resolved ▸ stored found
        rcases describeArray_within described with member | ⟨item, listed, member⟩
        · exact .inl (array.child member)
        · have held : store.Holds item := array.child listed
          exact .inl (held.resolve.child member)
  · cases described

/-- A space that is part of itself leads through the document. -/
theorem not_looped_of_not_held_looped {store : ObjectStore}
    (acyclic : ∀ held, store.Holds held → ¬ TransGen (Needs store) held held) (object : Object) :
    ¬ TransGen (Needs store) object object := by
  intro loop
  have inward : ∀ part, TransGen (Needs store) object part →
      store.Holds part ∨ sizeOf part < sizeOf object := by
    intro part chain
    induction chain with
    | single needs => exact needs.held_or_smaller
    | tail _ needs ih =>
        rcases ih with held | smaller
        · exact .inl (needs.preserves store.Holds .resolve .child held)
        · rcases needs.held_or_smaller with held | smallest
          · exact .inl held
          · exact .inr (smallest.trans smaller)
  rcases inward object loop with held | smaller
  · exact acyclic object held loop
  · exact Nat.lt_irrefl _ smaller

/-- Reading ends when all parts of parts do. -/
private theorem acc_of_read {store : ObjectStore} {object : Object} {space? : Option ColorSpace}
    (ended : read store object = some space?) :
    Acc (fun part object => Needs store object part) object := by
  refine read.partial_correctness
    (fun store object _ => Acc (fun part object => Needs store object part) object) ?_ store object
    space? ended
  intro read accessible store object space? ended
  constructor
  rintro part ⟨complete, described⟩
  rw [described] at ended
  obtain ⟨inner, partEnded, _⟩ := Option.bind_eq_some_iff.mp ended
  exact accessible store part inner partEnded

private theorem not_looped_of_acc {store : ObjectStore} {object looped : Object}
    (accessible : Acc (fun part object => Needs store object part) object)
    (reached : ReflTransGen (Needs store) object looped) :
    ¬ TransGen (Needs store) looped looped := by
  induction accessible generalizing looped with
  | intro object _ ih =>
      intro loop
      rcases ReflTransGen.cases_head reached with rfl | ⟨part, needs, onward⟩
      · obtain ⟨part, needs, back⟩ := TransGen.head'_iff.mp loop
        exact ih part needs back loop
      · exact ih part needs onward loop

/-- The objects whose spaces are read for the space of an object, itself included. -/
def Needed (store : ObjectStore) (object : Object) : Type :=
  {inner : Object // ReflTransGen (Needs store) object inner}

private theorem finite_needed (store : ObjectStore) (object : Object) :
    Finite (Needed store object) := by
  refine (store.finite_reached object).subset ?_
  intro inner needed
  induction needed with
  | refl => exact .inl .refl
  | tail _ needs ih => exact needs.reaches ih

/-- Parts of parts end when there are no loops among them, because a document has finitely many
objects. -/
private theorem wellFounded_of_not_looped {store : ObjectStore} {object : Object}
    (noLoop : ∀ looped, ReflTransGen (Needs store) object looped →
      ¬ TransGen (Needs store) looped looped) :
    WellFounded fun part whole : Needed store object => TransGen (Needs store) whole.1 part.1 := by
  have finite := finite_needed store object
  let Inner (part whole : Needed store object) : Prop := TransGen (Needs store) whole.1 part.1
  have transitive : IsTrans (Needed store object) Inner :=
    ⟨fun _ _ _ first second => second.trans first⟩
  have irreflexive : Std.Irrefl Inner := ⟨fun whole => noLoop whole.1 whole.2⟩
  exact Finite.wellFounded_of_trans_of_irrefl Inner

theorem read_isSome_of_not_looped {store : ObjectStore} {object : Object}
    (noLoop : ∀ looped, ReflTransGen (Needs store) object looped →
      ¬ TransGen (Needs store) looped looped) :
    (read store object).isSome := by
  have all : ∀ whole : Needed store object, (read store whole.1).isSome := by
    intro whole
    induction whole using (wellFounded_of_not_looped noLoop).induction with
    | _ whole ih =>
        obtain ⟨whole, reached⟩ := whole
        unfold read
        split
        · rfl
        · next part complete described =>
            have needs : Needs store whole part := ⟨complete, described⟩
            have ended := ih ⟨part, reached.tail needs⟩ (.single needs)
            obtain ⟨space?, ended⟩ := Option.isSome_iff_exists.mp ended
            simp only [ended]
            rfl
  exact all ⟨object, .refl⟩

/-- Reading ends exactly for the objects that lead to no space that is part of itself. -/
theorem read_ends_iff_no_part_of_itself (store : ObjectStore) (object : Object) :
    (read store object).isSome ↔
      ¬ ∃ looped, ReflTransGen (Needs store) object looped ∧
        TransGen (Needs store) looped looped := by
  constructor
  · rintro ended ⟨looped, reached, loop⟩
    obtain ⟨space?, ended⟩ := Option.isSome_iff_exists.mp ended
    exact not_looped_of_acc (acc_of_read ended) reached loop
  · intro noLoop
    exact read_isSome_of_not_looped fun looped reached loop => noLoop ⟨looped, reached, loop⟩

/-- No color space of a document is part of itself. -/
def Acyclic (store : ObjectStore) : Prop :=
  ∀ held, store.Holds held → ¬ TransGen (Needs store) held held

theorem read_isSome_of_acyclic {store : ObjectStore} (acyclic : Acyclic store) (object : Object) :
    (read store object).isSome :=
  read_isSome_of_not_looped fun looped _ => not_looped_of_not_held_looped acyclic looped

/-- A document in which the space of an ink is defined by itself. -/
def selfDefined : ObjectStore where
  objects := [(⟨5, 0⟩, .array [.name (Text.encodeUtf8 "Separation"), .name (Text.encodeUtf8 "X"),
    .reference ⟨5, 0⟩])]
  trailer := []

theorem self_defined_space_is_read_without_end :
    read selfDefined (.reference ⟨5, 0⟩) = none := by
  have needs : Needs selfDefined (.reference ⟨5, 0⟩) (.reference ⟨5, 0⟩) := ⟨_, rfl⟩
  refine Option.eq_none_iff_forall_not_mem.mpr ?_
  intro space? ended
  exact not_looped_of_acc (acc_of_read ended) .refl (.single needs)

end PdfElements.ColorSpace
