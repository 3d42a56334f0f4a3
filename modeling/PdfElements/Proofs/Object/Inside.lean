import Mathlib.Data.Set.Finite.Lattice
import Mathlib.Logic.Relation
import PdfElements.Object.Store

/-! The objects that are written inside others. There are finitely many in an object and in the
objects of a document, also where references form cycles. -/

set_option autoImplicit false

namespace PdfElements

theorem Dictionary.mem_of_get? {dictionary : Dictionary} {key : List UInt8} {value : Object}
    (found : dictionary.get? key = some value) : value ∈ dictionary.map Prod.snd := by
  induction dictionary with
  | nil => cases found
  | cons entry rest ih =>
      simp only [get?] at found
      split at found
      · cases found
        exact List.mem_cons_self
      · exact List.mem_cons_of_mem _ (ih found)

namespace Object

def children : Object → List Object
  | .array items => items
  | .dictionary entries => entries.map Prod.snd
  | .stream entries _ => entries.map Prod.snd
  | _ => []

private theorem sizeOf_value_lt {entries : Dictionary} {value : Object}
    (member : value ∈ entries.map Prod.snd) : sizeOf value < sizeOf entries := by
  obtain ⟨entry, listed, rfl⟩ := List.mem_map.mp member
  have smaller := List.sizeOf_lt_of_mem listed
  have component : sizeOf entry.2 < sizeOf entry := by
    cases entry
    simp only [Prod.mk.sizeOf_spec]
    omega
  omega

theorem sizeOf_child_lt {object child : Object} (member : child ∈ object.children) :
    sizeOf child < sizeOf object := by
  cases object with
  | array items =>
      have smaller : sizeOf child < sizeOf items := List.sizeOf_lt_of_mem member
      simp only [array.sizeOf_spec]
      omega
  | dictionary entries =>
      have smaller := sizeOf_value_lt member
      simp only [dictionary.sizeOf_spec]
      omega
  | stream entries data =>
      have smaller := sizeOf_value_lt member
      simp only [stream.sizeOf_spec]
      omega
  | _ => cases member

/-- An object, or one that is written in it at some level. -/
def Inside : Object → Object → Prop :=
  Relation.ReflTransGen fun object child => child ∈ object.children

theorem inside_iff (object : Object) {inner : Object} :
    object.Inside inner ↔ inner = object ∨ ∃ child ∈ object.children, child.Inside inner := by
  rw [Inside, Relation.ReflTransGen.cases_head_iff, eq_comm]

theorem finite_inside (object : Object) : {inner | object.Inside inner}.Finite := by
  have children : (⋃ child ∈ {child | child ∈ object.children},
      {inner | Inside child inner}).Finite := by
    refine Set.Finite.biUnion (List.finite_toSet object.children) ?_
    intro child member
    have smaller : sizeOf child < sizeOf object := sizeOf_child_lt member
    exact finite_inside child
  refine (children.insert object).subset ?_
  intro inner inside
  rcases Relation.ReflTransGen.cases_head inside with rfl | ⟨child, member, deeper⟩
  · exact Set.mem_insert _ _
  · exact Set.mem_insert_of_mem _ (Set.mem_biUnion member deeper)
termination_by sizeOf object

end Object

namespace ObjectStore

private theorem stored_of_entry {store : ObjectStore} {id : ObjectId} {object : Object}
    (found : store.entry? id = some object) : ∃ entry ∈ store.objects, entry.2 = object := by
  obtain ⟨entry, listed, same⟩ := Option.map_eq_some_iff.mp found
  exact ⟨entry, List.mem_of_find?_eq_some listed, same⟩

private theorem follow_ok {store : ObjectStore} {hops : Nat} {object target : Object}
    (followed : store.follow hops object = .ok target) :
    target = object ∨ ∃ entry ∈ store.objects, entry.2 = target := by
  induction hops generalizing object with
  | zero =>
      cases object with
      | reference id =>
          simp only [follow] at followed
          split at followed <;> cases followed
      | _ =>
          cases followed
          exact .inl rfl
  | succ hops ih =>
      cases object with
      | reference id =>
          simp only [follow] at followed
          split at followed
          · cases followed
          · next next found =>
              rcases ih followed with rfl | stored
              · exact .inr (stored_of_entry found)
              · exact .inr stored
      | _ =>
          cases followed
          exact .inl rfl

theorem stored_of_object {store : ObjectStore} {id : ObjectId} {object : Object}
    (found : store.object id = .ok object) : ∃ entry ∈ store.objects, entry.2 = object := by
  unfold ObjectStore.object at found
  cases first : store.entry? id with
  | none =>
      rw [first] at found
      cases found
  | some next =>
      rw [first] at found
      rcases follow_ok found with rfl | stored
      · exact stored_of_entry first
      · exact stored

theorem resolve_eq_or_stored (store : ObjectStore) (object : Object) :
    store.resolve object = object ∨
      ∃ entry ∈ store.objects, entry.2 = store.resolve object := by
  cases object with
  | reference id =>
      simp only [resolve]
      cases found : store.object id with
      | error fault => exact .inl rfl
      | ok target => exact .inr (stored_of_object found)
  | _ => exact .inl rfl

/-- An object that is written in the document. -/
def Holds (store : ObjectStore) (inner : Object) : Prop :=
  ∃ entry ∈ store.objects, entry.2.Inside inner

theorem Holds.child {store : ObjectStore} {inner child : Object} (held : store.Holds inner)
    (member : child ∈ inner.children) : store.Holds child := by
  obtain ⟨entry, listed, inside⟩ := held
  exact ⟨entry, listed, inside.tail member⟩

theorem Holds.resolve {store : ObjectStore} {inner : Object} (held : store.Holds inner) :
    store.Holds (store.resolve inner) := by
  rcases store.resolve_eq_or_stored inner with same | ⟨entry, listed, same⟩
  · rwa [same]
  · exact ⟨entry, listed, same ▸ .refl⟩

/-- An object that is written inside the given one or in the document. -/
def Reaches (store : ObjectStore) (object inner : Object) : Prop :=
  object.Inside inner ∨ ∃ entry ∈ store.objects, entry.2.Inside inner

theorem finite_reached (store : ObjectStore) (object : Object) :
    {inner | store.Reaches object inner}.Finite := by
  have stored : (⋃ entry ∈ {entry | entry ∈ store.objects}, {inner | entry.2.Inside inner}).Finite :=
    (List.finite_toSet store.objects).biUnion fun entry _ => entry.2.finite_inside
  refine (object.finite_inside.union stored).subset ?_
  rintro inner (inside | ⟨entry, listed, inside⟩)
  · exact .inl inside
  · exact .inr (Set.mem_biUnion listed inside)

theorem Reaches.child {store : ObjectStore} {object inner child : Object}
    (reaches : store.Reaches object inner) (member : child ∈ inner.children) :
    store.Reaches object child := by
  rcases reaches with inside | ⟨entry, listed, inside⟩
  · exact .inl (inside.tail member)
  · exact .inr ⟨entry, listed, inside.tail member⟩

theorem Reaches.resolve {store : ObjectStore} {object inner : Object}
    (reaches : store.Reaches object inner) : store.Reaches object (store.resolve inner) := by
  rcases store.resolve_eq_or_stored inner with same | ⟨entry, listed, same⟩
  · rwa [same]
  · exact .inr ⟨entry, listed, same ▸ .refl⟩

end ObjectStore

end PdfElements
