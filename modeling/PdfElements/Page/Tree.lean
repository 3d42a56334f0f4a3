import PdfElements.Object.Place

/-!
The tree of pages: listing the pages in order, and looking up what a page inherits from the nodes
above it.
-/

set_option autoImplicit false

namespace PdfElements.PageTree

def pendingLimit : Nat := 256

def nodeType? (node : Dictionary) : Option String :=
  match node.find? "Type" with
  | some object => object.name?.map Text.decodeUtf8
  | none => (node.find? "Linearized").map fun _ => "Linearized"

/-- The children of the node with a number; none when it is no node. -/
def children (store : ObjectStore) (id : ObjectId) : List Object :=
  match store.dictionary id with
  | .error _ => []
  | .ok node => (store.array? node "Kids").getD []

/-- The pages from a place in the tree on: the nodes next to each other and, above them, those that
wait. Visits are limited, so that a cycle ends. -/
def pagesFrom (store : ObjectStore) : (visits : Nat) → (nodes : List Object) →
    (waiting : List (List Object)) → List ObjectId
  | 0, _, _ => []
  | visits + 1, nodes, waiting =>
    match nodes, waiting with
    | [], (node :: nodes) :: waiting => visit visits node nodes waiting
    | [], _ => []
    | node :: nodes, waiting => visit visits node nodes waiting
where
  visit (visits : Nat) (node : Object) (nodes : List Object) (waiting : List (List Object)) :
      List ObjectId :=
    match node.reference? with
    | none => pagesFrom store visits nodes waiting
    | some id =>
      let type? := (store.dictionary id).toOption.bind nodeType?
      if type? = some "Page" then id :: pagesFrom store visits nodes waiting
      else if type? = some "Pages" && waiting.length < pendingLimit then
        pagesFrom store visits (children store id)
          (if nodes.isEmpty then waiting else nodes :: waiting)
      else pagesFrom store visits nodes waiting

def root? (store : ObjectStore) : Option ObjectId := do
  let catalogId ← (← store.trailer.find? "Root").reference?
  let catalog ← (store.dictionary catalogId).toOption
  (← catalog.find? "Pages").reference?

/-- The numbers of the pages in order. No more nodes are visited than the document has objects. -/
def pages (store : ObjectStore) : List ObjectId :=
  match root? store with
  | none => []
  | some root => pagesFrom store store.objects.length (children store root) []

inductive Fault where
  | node (fault : ObjectFault)
  | parent (fault : ObjectFault)
  deriving DecidableEq, Repr

def Fault.message : Fault → String
  | .node fault => "failed to get page dictionary: " ++ fault.message
  | .parent fault => "invalid /Parent reference: " ++ fault.message

def heightLimit : Nat := 64

/-- The value under a key at the nearest of so many nodes, from the one with a number upward. -/
def inheritedAt (store : ObjectStore) (key : String) :
    (nodes : Nat) → ObjectId → Except Fault (Option (Located Object))
  | 0, _ => .ok none
  | nodes + 1, id => do
    let node ← (store.dictionaryAt id).mapError .node
    match node.find? key, node.find? "Parent" with
    | some value, _ => return some value
    | none, none => return none
    | none, some parent => inheritedAt store key nodes (← parent.value.asReference.mapError .parent)

def inheritedFrom (store : ObjectStore) (key : String) (nodes : Nat) (id : ObjectId) :
    Except Fault (Option Object) :=
  (inheritedAt store key nodes id).map fun found? => found?.map Located.value

def inherited (store : ObjectStore) (page : ObjectId) (key : String) :
    Except Fault (Option Object) :=
  inheritedFrom store key heightLimit page

end PdfElements.PageTree
