import Mathlib.Data.Finmap
import TreeQuery.Proofs.Tree.Links

/-!
# Nodes under keys

A tree is an array, so a node has the number of its place and knows nothing of it.  The nodes may as
well be held in a finite map, under keys that a counter hands out, each of them with its own key.
The same can be asked of such a store, and after the same changes it holds under every key the node
that the tree has at that number.  So the keys in use are the numbers below the counter, as no
change takes a node away or skips a key.  Main statements: `holds_run` and `Holds.keys_eq`.
-/

namespace TreeQuery

/-- A node with the key that it is held under. -/
structure Entry extends Node where
  id : NodeId
deriving DecidableEq

/-- Nodes under keys, the key of the next node, and the key of the document. -/
structure Store where
  nodes : Finmap fun _ : NodeId => Entry
  nextId : NodeId
  documentId : NodeId

namespace Store

/-- The store that has a document and nothing else. -/
def new : Store := ⟨.singleton 0 ⟨⟨.document, none, []⟩, 0⟩, 1, 0⟩

/-- The node under a key. -/
def get? (store : Store) (id : NodeId) : Option Entry := store.nodes.lookup id

/-- The store with the node under a key changed, if there is one. -/
def modify (store : Store) (id : NodeId) (f : Entry → Entry) : Store :=
  match store.get? id with
  | none => store
  | some entry => { store with nodes := store.nodes.insert id (f entry) }

/-- Puts a new, unattached node under the next key, and answers the key. -/
def create (store : Store) (kind : NodeKind) : NodeId × Store :=
  (store.nextId, { store with
    nodes := store.nodes.insert store.nextId ⟨⟨kind, none, []⟩, store.nextId⟩
    nextId := store.nextId + 1 })

/-- The store with an attribute of an element set. -/
def setAttribute (store : Store) (id : NodeId) (name value : Text) : Except TreeError Store :=
  match (store.get? id).bind (·.kind.element?) with
  | none => .error (.nodeNotFound id)
  | some element => .ok (store.modify id fun entry =>
      { entry with kind := .element (element.setAttribute name value) })

/-- Sets attributes of an element one after the other, up to the first one that is refused. -/
def setAttributes (id : NodeId) : List (Text × Text) → Store → Except TreeError Unit × Store
  | [], store => (.ok (), store)
  | (name, value) :: attributes, store =>
    match store.setAttribute id name value with
    | .error e => (.error e, store)
    | .ok changed => setAttributes id attributes changed

/-- Attaches a node as the last child of a container. -/
def appendChild (store : Store) (parent child : NodeId) : Except TreeError Store :=
  match store.get? parent with
  | none => .error (.nodeNotFound parent)
  | some above =>
    if above.kind.isContainer then
      match store.get? child with
      | none => .error (.nodeNotFound child)
      | some below =>
        if below.parent.isSome then .error (.alreadyAttached child)
        else .ok ((store.modify child fun entry => { entry with parent := some parent }).modify
          parent fun entry => { entry with children := entry.children ++ [child] })
    else .error (.notAContainer parent child)

/-- Attaches a node that has been created, and answers its key. -/
def attach (store : Store) (parent id : NodeId) : Except TreeError NodeId × Store :=
  match store.appendChild parent id with
  | .error e => (.error e, store)
  | .ok attached => (.ok id, attached)

/-- Creates a node and attaches it. -/
def appendNew (store : Store) (parent : NodeId) (kind : NodeKind) :
    Except TreeError NodeId × Store :=
  (store.create kind).2.attach parent (store.create kind).1

/-- Creates an element, sets its attributes and attaches it. -/
def appendElement (store : Store) (parent : NodeId) (tag : Text) (attributes : List (Text × Text)) :
    Except TreeError NodeId × Store :=
  let created := store.create (.element (.ofTag tag))
  match setAttributes created.1 attributes created.2 with
  | (.error e, changed) => (.error e, changed)
  | (.ok (), changed) => changed.attach parent created.1

/-- The store after a change, which may be refused. -/
def after (store : Store) : Change → Store
  | .createElement tag => (store.create (.element (.ofTag tag))).2
  | .createText content => (store.create (.text content)).2
  | .createData content => (store.create (.data content)).2
  | .createComment content => (store.create (.comment content)).2
  | .appendChild parent child =>
    match store.appendChild parent child with
    | .ok attached => attached
    | .error _ => store
  | .setAttribute id name value =>
    match store.setAttribute id name value with
    | .ok changed => changed
    | .error _ => store
  | .appendElement parent tag attributes => (store.appendElement parent tag attributes).2
  | .appendText parent content => (store.appendNew parent (.text content)).2
  | .appendData parent content => (store.appendNew parent (.data content)).2

/-- The store after some changes of the new one. -/
def run (changes : List Change) : Store := changes.foldl Store.after .new

/-- The store has under each key, which it knows, the node of that number in the tree. -/
structure Holds (store : Store) (tree : Tree) : Prop where
  get?_eq : ∀ id, store.get? id = (tree.get? id).map (Entry.mk · id)
  nextId_eq : store.nextId = tree.size
  documentId_eq : store.documentId = Tree.documentId

/-- A change is refused for the same reason, or neither is refused and they lead to the same nodes.
-/
inductive Agree : Except TreeError Store → Except TreeError Tree → Prop where
  | ok {store : Store} {tree : Tree} : store.Holds tree → Agree (.ok store) (.ok tree)
  | error (e : TreeError) : Agree (.error e) (.error e)

variable {store : Store} {tree : Tree} {id parent child : NodeId} {kind : NodeKind}

/-- What is refused changes neither the store nor the tree. -/
lemma Holds.of_agree {outcome : Except TreeError Store} {outcome' : Except TreeError Tree}
    (holds : store.Holds tree) :
    Agree outcome outcome' →
    Holds (match outcome with | .ok changed => changed | .error _ => store)
      (match outcome' with | .ok changed => changed | .error _ => tree) := by
  intro agree
  cases agree with
  | ok changed => exact changed
  | error e => exact holds

/-! ### Parts of a store -/

/-- Only the node under the given key changes. -/
lemma get?_modify (store : Store) (i id : NodeId) (f : Entry → Entry) :
    (store.modify i f).get? id = (store.get? id).map fun entry =>
      if i = id then f entry else entry := by
  unfold modify
  cases found : store.get? i with
  | none =>
    dsimp only
    cases there : store.get? id with
    | none => rfl
    | some entry =>
      have differ : i ≠ id := by
        rintro rfl
        cases found.symm.trans there
      rw [Option.map_some, if_neg differ]
  | some entry =>
    dsimp only [get?]
    by_cases same : i = id
    · subst same
      rw [Finmap.lookup_insert, show store.nodes.lookup i = some entry from found, Option.map_some,
        if_pos rfl]
    · simp only [Finmap.lookup_insert_of_ne _ (Ne.symm same), if_neg same, Option.map_id']

/-- Changing a node hands out no key. -/
@[simp] lemma nextId_modify (store : Store) (id : NodeId) (f : Entry → Entry) :
    (store.modify id f).nextId = store.nextId := by
  unfold modify
  split <;> rfl

/-- Changing a node leaves the document where it is. -/
@[simp] lemma documentId_modify (store : Store) (id : NodeId) (f : Entry → Entry) :
    (store.modify id f).documentId = store.documentId := by
  unfold modify
  split <;> rfl

/-- The new node is under the key that is handed out, and knows it. -/
lemma get?_create (store : Store) (kind : NodeKind) (id : NodeId) :
    (store.create kind).2.get? id =
      if id = store.nextId then some ⟨⟨kind, none, []⟩, id⟩ else store.get? id := by
  unfold create
  dsimp only [get?]
  split
  · rename_i here
    rw [here, Finmap.lookup_insert]
  · rename_i other
    rw [Finmap.lookup_insert_of_ne _ other]

/-! ### Single changes -/

/-- At the start there is the document and nothing else. -/
lemma holds_new : new.Holds .new where
  get?_eq id := by
    by_cases here : id = 0
    · rw [here]
      exact Finmap.lookup_singleton_eq
    · have missing : id ∉ (Finmap.singleton 0 ⟨⟨.document, none, []⟩, 0⟩ :
          Finmap fun _ : NodeId => Entry) := by
        rwa [Finmap.mem_singleton]
      rw [Tree.get?_eq_none_iff.2 (Nat.one_le_iff_ne_zero.2 here)]
      exact Finmap.lookup_eq_none.2 missing
  nextId_eq := rfl
  documentId_eq := rfl

namespace Holds

/-- Changing one node in the store and at its number in the tree. -/
lemma of_modify {next : Tree} {i : NodeId} {f : Entry → Entry} {g : Node → Node}
    (holds : store.Holds tree) (same : ∀ node, f ⟨node, i⟩ = ⟨g node, i⟩)
    (size_eq : next.size = tree.size)
    (get?_eq : ∀ id,
      next.get? id = (tree.get? id).map fun node => if i = id then g node else node) :
    (store.modify i f).Holds next where
  get?_eq id := by
    rw [get?_modify, holds.get?_eq, get?_eq, Option.map_map, Option.map_map]
    refine congrArg (Option.map · _) (funext fun node => ?_)
    dsimp only [Function.comp]
    split
    · rename_i here
      rw [← here, same]
    · rfl
  nextId_eq := by rw [nextId_modify, holds.nextId_eq, size_eq]
  documentId_eq := by rw [documentId_modify, holds.documentId_eq]

/-- The key that is handed out is the number of the new node. -/
lemma create (holds : store.Holds tree) (kind : NodeKind) :
    (store.create kind).1 = tree.size ∧ (store.create kind).2.Holds (tree.create kind) where
  left := holds.nextId_eq
  right := {
    get?_eq id := by
      rw [get?_create, Tree.get?_create, holds.nextId_eq, holds.get?_eq]
      split <;> rfl
    nextId_eq := by
      rw [Tree.size_create, ← holds.nextId_eq]
      rfl
    documentId_eq := holds.documentId_eq }

/-- An attribute is set in both, or refused in both. -/
lemma setAttribute (holds : store.Holds tree) (id : NodeId) (name value : Text) :
    Agree (store.setAttribute id name value) (tree.setAttribute id name value) := by
  have same : (store.get? id).bind (·.kind.element?) = (tree.get? id).bind (·.kind.element?) := by
    rw [holds.get?_eq]
    cases tree.get? id <;> rfl
  unfold Store.setAttribute Tree.setAttribute
  rw [same]
  cases (tree.get? id).bind (·.kind.element?) with
  | none => exact .error _
  | some element =>
    exact .ok (holds.of_modify (fun _ => rfl) (Array.size_modify ..)
      (Tree.get?_relabel tree id · (element.setAttribute name value)))

/-- A child is linked in both. -/
lemma link (holds : store.Holds tree) (parent child : NodeId) :
    ((store.modify child fun entry => { entry with parent := some parent }).modify parent
      fun entry => { entry with children := entry.children ++ [child] }).Holds
      (tree.link parent child) where
  get?_eq id := by
    rw [get?_modify, get?_modify, holds.get?_eq, Tree.get?_link]
    cases tree.get? id with
    | none => rfl
    | some node =>
      -- A node may be linked to itself, so both of its links may change.
      simp only [Option.map_some]
      split <;> split <;> rfl
  nextId_eq := by rw [nextId_modify, nextId_modify, holds.nextId_eq, Tree.size_link]
  documentId_eq := by rw [documentId_modify, documentId_modify, holds.documentId_eq]

/-- A node is attached in both, or refused in both for the same reason. -/
lemma appendChild (holds : store.Holds tree) (parent child : NodeId) :
    Agree (store.appendChild parent child) (tree.appendChild parent child) := by
  unfold Store.appendChild Tree.appendChild
  rw [holds.get?_eq parent, holds.get?_eq child]
  cases tree.get? parent with
  | none => exact .error _
  | some above =>
    dsimp only [Option.map_some]
    split
    case isFalse => exact .error _
    cases tree.get? child with
    | none => exact .error _
    | some below =>
      dsimp only [Option.map_some]
      split
      case isTrue => exact .error _
      case isFalse => exact .ok (holds.link parent child)

/-- A node that has been created is attached in both, or stays behind in both. -/
lemma attach {created : Store} (holds : created.Holds (tree.create kind)) (parent : NodeId) :
    (created.attach parent tree.size).1 = (tree.appendNew parent kind).1 ∧
      (created.attach parent tree.size).2.Holds (tree.appendNew parent kind).2 := by
  have agree := holds.appendChild parent tree.size
  unfold Store.attach Tree.appendNew
  dsimp only
  generalize created.appendChild parent tree.size = outcome at agree
  generalize (tree.create kind).appendChild parent tree.size = outcome' at agree
  cases agree with
  | ok attached => exact ⟨rfl, attached⟩
  | error e => exact ⟨rfl, holds⟩

/-- Creating a node and attaching it answers the same. -/
lemma appendNew (holds : store.Holds tree) (parent : NodeId) (kind : NodeKind) :
    (store.appendNew parent kind).1 = (tree.appendNew parent kind).1 ∧
      (store.appendNew parent kind).2.Holds (tree.appendNew parent kind).2 := by
  obtain ⟨key, created⟩ := holds.create kind
  rw [Store.appendNew, key]
  exact created.attach parent

/-- The attributes of a new element are set one after the other, and none is refused. -/
lemma setAttributes {created : Store} {element : Element}
    (holds : created.Holds (tree.create (.element element))) (attributes : List (Text × Text)) :
    ∃ changed, Store.setAttributes tree.size attributes created = (.ok (), changed) ∧
      changed.Holds (tree.create (.element (attributes.foldl
        (fun element pair => element.setAttribute pair.1 pair.2) element))) := by
  induction attributes generalizing created element with
  | nil => exact ⟨created, rfl, holds⟩
  | cons pair attributes ih =>
    obtain ⟨name, value⟩ := pair
    have found : created.get? tree.size = some ⟨⟨.element element, none, []⟩, tree.size⟩ := by
      rw [holds.get?_eq, Tree.get?_create, if_pos rfl]
      rfl
    have changed : (created.modify tree.size fun entry =>
        { entry with kind := .element (element.setAttribute name value) }).Holds
        (tree.create (.element (element.setAttribute name value))) := by
      refine holds.of_modify (g := fun node =>
        { node with kind := .element (element.setAttribute name value) }) (fun _ => rfl) ?_
        fun id => ?_
      · rw [Tree.size_create, Tree.size_create]
      · rw [Tree.get?_create, Tree.get?_create]
        by_cases here : id = tree.size
        · rw [if_pos here, if_pos here, Option.map_some, if_pos here.symm]
        · simp only [if_neg here, if_neg (Ne.symm here), Option.map_id']
    obtain ⟨last, set, same⟩ := ih changed
    refine ⟨last, ?_, same⟩
    rw [Store.setAttributes, Store.setAttribute, found]
    exact set

/-- Creating an element with attributes and attaching it answers the same. -/
lemma appendElement (holds : store.Holds tree) (parent : NodeId) (tag : Text)
    (attributes : List (Text × Text)) :
    (store.appendElement parent tag attributes).1 = (tree.appendElement parent tag attributes).1 ∧
      (store.appendElement parent tag attributes).2.Holds
        (tree.appendElement parent tag attributes).2 := by
  obtain ⟨key, created⟩ := holds.create (.element (.ofTag tag))
  obtain ⟨changed, set, same⟩ := created.setAttributes attributes
  rw [Store.appendElement, key, set]
  exact same.attach parent

/-- Every change keeps the store and the tree the same. -/
lemma after (holds : store.Holds tree) (change : Change) :
    (store.after change).Holds (tree.after change) := by
  cases change with
  | createElement | createText | createData | createComment => exact (holds.create _).2
  | appendChild parent child =>
    exact holds.of_agree (holds.appendChild parent child)
  | setAttribute id name value =>
    exact holds.of_agree (holds.setAttribute id name value)
  | appendElement parent tag attributes => exact (holds.appendElement parent tag attributes).2
  | appendText parent content => exact (holds.appendNew parent (.text content)).2
  | appendData parent content => exact (holds.appendNew parent (.data content)).2

/-! ### Keys -/

/-- The keys in use are those below the counter. -/
lemma keys_eq (holds : store.Holds tree) : store.nodes.keys = Finset.range store.nextId := by
  ext id
  rw [Finmap.mem_keys, ← Finmap.lookup_isSome, Finset.mem_range, holds.nextId_eq, ← Nat.not_le,
    ← Tree.get?_eq_none_iff, show store.nodes.lookup id = _ from holds.get?_eq id,
    Option.isSome_map, ← Option.ne_none_iff_isSome]

end Holds

/-- After any changes, refused ones among them, the store and the tree have the same nodes. -/
theorem holds_run (changes : List Change) : (run changes).Holds (Tree.run changes) := by
  suffices h : ∀ {store : Store} {tree : Tree}, store.Holds tree →
      (changes.foldl Store.after store).Holds (changes.foldl Tree.after tree) from h holds_new
  induction changes with
  | nil => exact id
  | cons change changes ih => exact fun holds => ih (holds.after change)

end Store
end TreeQuery
