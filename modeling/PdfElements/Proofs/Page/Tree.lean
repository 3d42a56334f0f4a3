import PdfElements.Page.Tree

/-! Trees of pages of one level: what is listed are the children of the root, in their order. -/

set_option autoImplicit false

namespace PdfElements.PageTree

variable {store : ObjectStore} {ids : List ObjectId}

def IsPage (store : ObjectStore) (id : ObjectId) : Prop :=
  (store.dictionary id).toOption.bind nodeType? = some "Page"

instance (id : ObjectId) : Decidable (IsPage store id) :=
  inferInstanceAs (Decidable (_ = _))

theorem pagesFrom_of_pages (leaves : ∀ id ∈ ids, IsPage store id) {visits : Nat}
    (enough : ids.length ≤ visits) :
    pagesFrom store visits (ids.map .reference) [] = ids := by
  induction ids generalizing visits with
  | nil => cases visits <;> simp only [List.map_nil, pagesFrom]
  | cons id rest ih =>
      obtain ⟨page, others⟩ := List.forall_mem_cons.mp leaves
      cases visits with
      | zero => cases enough
      | succ visits =>
          have listed := ih others (Nat.le_of_succ_le_succ enough)
          have page : (store.dictionary id).toOption.bind nodeType? = some "Page" := page
          simp only [List.map_cons, pagesFrom, pagesFrom.visit, Object.reference?, page, if_true,
            listed]

theorem pages_of_children {root : ObjectId} (found : root? store = some root)
    (kids : children store root = ids.map .reference) (leaves : ∀ id ∈ ids, IsPage store id)
    (few : ids.length ≤ store.objects.length) : pages store = ids := by
  simp only [pages, found, kids]
  exact pagesFrom_of_pages leaves few

end PdfElements.PageTree
