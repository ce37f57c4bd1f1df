import Mathlib.Tactic.Lemma
import TreeQuery.Tree.Navigation

/-!
# The links of a tree

What can be asked of a tree are the changes of `Change`, and a tree is `Built` if such changes, the
refused ones among them, lead to it from the tree that has a document and nothing else.  Seen
through the kind, the parent and the children of a node every change comes down to three steps: a
new node without links, a new element under an old number, and one new link.  Main statement: in
every tree that is built a node is among the children of exactly its parent, and only once
(`Built.linked`).
-/

namespace TreeQuery

/-- What can be asked of a tree. -/
inductive Change where
  | createElement (tag : Text)
  | createText (content : Text)
  | createData (content : Text)
  | createComment (content : Text)
  | appendChild (parent child : NodeId)
  | setAttribute (id : NodeId) (name value : Text)
  | appendElement (parent : NodeId) (tag : Text) (attributes : List (Text × Text))
  | appendText (parent : NodeId) (content : Text)
  | appendData (parent : NodeId) (content : Text)

namespace Tree

/-- The tree after a change, which may be refused. -/
def after (tree : Tree) : Change → Tree
  | .createElement tag => tree.create (.element (.ofTag tag))
  | .createText content => tree.create (.text content)
  | .createData content => tree.create (.data content)
  | .createComment content => tree.create (.comment content)
  | .appendChild parent child =>
    match tree.appendChild parent child with
    | .ok attached => attached
    | .error _ => tree
  | .setAttribute id name value =>
    match tree.setAttribute id name value with
    | .ok changed => changed
    | .error _ => tree
  | .appendElement parent tag attributes => (tree.appendElement parent tag attributes).2
  | .appendText parent content => (tree.appendText parent content).2
  | .appendData parent content => (tree.appendData parent content).2

/-- A tree that changes lead to from the new one. -/
inductive Built : Tree → Prop where
  | new : Built .new
  | after {tree : Tree} (change : Change) :
    Built tree →
    Built (tree.after change)

/-- The tree after some changes of the new one. -/
def run (changes : List Change) : Tree := changes.foldl Tree.after .new

/-- The number that a node names as its parent. -/
def parentLink? (tree : Tree) (id : NodeId) : Option NodeId := (tree.get? id).bind (·.parent)

/-- The tree with another element under a number. -/
def relabel (tree : Tree) (id : NodeId) (element : Element) : Tree :=
  ⟨tree.nodes.modify id fun node => { node with kind := .element element }⟩

/-! ### What a step does to the three views -/

variable {tree : Tree}

/-- The children of a node are read off the table, and a missing node has none. -/
lemma children_eq (tree : Tree) (id : NodeId) :
    tree.children id = ((tree.get? id).map (·.children)).getD [] := by
  unfold children
  cases tree.get? id <;> rfl

/-- The numbers that are not in use start at the size of the tree. -/
lemma get?_eq_none_iff {id : NodeId} : tree.get? id = none ↔ tree.size ≤ id := by
  simp [get?, size]

/-- A number with a kind is in use. -/
lemma lt_size_of_kind? {id : NodeId} {kind : NodeKind} (h : tree.kind? id = some kind) :
    id < tree.size := by
  obtain ⟨node, found, -⟩ := Option.map_eq_some_iff.1 h
  apply Nat.lt_of_not_le
  intro beyond
  rw [get?_eq_none_iff.2 beyond] at found
  cases found

/-- The kind of a node that is found. -/
lemma kind?_of_get? {id : NodeId} {node : Node} (found : tree.get? id = some node) :
    tree.kind? id = some node.kind := by
  rw [kind?, found]
  rfl

/-- The children of a node that is found. -/
lemma children_of_get? {id : NodeId} {node : Node} (found : tree.get? id = some node) :
    tree.children id = node.children := by
  rw [children_eq, found]
  rfl

/-- The parent of a node that is found. -/
lemma parentLink?_of_get? {id : NodeId} {node : Node} (found : tree.get? id = some node) :
    tree.parentLink? id = node.parent := by
  rw [parentLink?, found]
  rfl

/-- A node is the given element if it is of that kind. -/
lemma element?_eq_some_iff {id : NodeId} {element : Element} :
    tree.element? id = some element ↔ tree.kind? id = some (.element element) := by
  unfold element?
  cases tree.kind? id with
  | none => simp
  | some kind => cases kind <;> simp [NodeKind.element?]

/-- An element is a node that some element is found at. -/
lemma isElement_iff {id : NodeId} :
    tree.isElement id ↔ ∃ element, tree.element? id = some element := by
  unfold isElement element?
  cases tree.kind? id with
  | none => simp
  | some kind => cases kind <;> simp [NodeKind.element?, NodeKind.isElement]

/-- A number below the size is in use. -/
lemma exists_get?_of_lt {id : NodeId} (present : id < tree.size) :
    ∃ node, tree.get? id = some node := by
  apply Option.ne_none_iff_exists'.1
  intro missing
  exact Nat.not_lt.2 (get?_eq_none_iff.1 missing) present

/-- Another element under a number leaves all other nodes alone. -/
lemma get?_relabel (tree : Tree) (i id : NodeId) (element : Element) :
    (tree.relabel i element).get? id =
      (tree.get? id).map fun node =>
        if i = id then { node with kind := .element element } else node := by
  simp only [get?, relabel, Array.getElem?_modify]
  split <;> simp

/-- A link changes the parent of the child and the children of the parent. -/
lemma get?_link (tree : Tree) (parent child id : NodeId) :
    (tree.link parent child).get? id =
      (tree.get? id).map fun node =>
        { node with
          parent := if child = id then some parent else node.parent
          children := if parent = id then node.children ++ [child] else node.children } := by
  simp only [get?, link, Array.getElem?_modify]
  cases tree.nodes[id]? <;> split <;> split <;> rfl

/-- The new number has the new kind, and the old ones keep theirs. -/
lemma kind?_create (tree : Tree) (kind : NodeKind) (id : NodeId) :
    (tree.create kind).kind? id = if id = tree.size then some kind else tree.kind? id := by
  unfold kind?
  rw [get?_create]
  split <;> rfl

/-- A new node has no parent, and is none yet. -/
lemma parentLink?_create (tree : Tree) (kind : NodeKind) (id : NodeId) :
    (tree.create kind).parentLink? id = tree.parentLink? id := by
  unfold parentLink?
  rw [get?_create]
  split
  · rename_i e
    rw [get?_eq_none_iff.2 (Nat.le_of_eq e.symm)]
    rfl
  · rfl

/-- A new node has no children, and is none of an old node's. -/
lemma children_create (tree : Tree) (kind : NodeKind) (id : NodeId) :
    (tree.create kind).children id = tree.children id := by
  rw [children_eq, children_eq, get?_create]
  split
  · rename_i e
    rw [get?_eq_none_iff.2 (Nat.le_of_eq e.symm)]
    rfl
  · rfl

/-- Another element under the number of an element is the only kind that changes. -/
lemma kind?_relabel {i : NodeId} {old : Element} (h : tree.kind? i = some (.element old))
    (id : NodeId) (new : Element) :
    (tree.relabel i new).kind? id = if i = id then some (.element new) else tree.kind? id := by
  unfold kind? at h ⊢
  rw [get?_relabel]
  split
  · rename_i e
    subst e
    obtain ⟨node, found, -⟩ := Option.map_eq_some_iff.1 h
    rw [found]
    rfl
  · cases tree.get? id <;> rfl

/-- Another element under a number changes no parent. -/
lemma parentLink?_relabel (tree : Tree) (i id : NodeId) (element : Element) :
    (tree.relabel i element).parentLink? id = tree.parentLink? id := by
  unfold parentLink?
  rw [get?_relabel]
  cases tree.get? id with
  | none => rfl
  | some node =>
    simp only [Option.map_some, Option.bind_some]
    split <;> rfl

/-- Another element under a number changes no children. -/
lemma children_relabel (tree : Tree) (i id : NodeId) (element : Element) :
    (tree.relabel i element).children id = tree.children id := by
  rw [children_eq, children_eq, get?_relabel]
  cases tree.get? id with
  | none => rfl
  | some node =>
    simp only [Option.map_some, Option.getD_some]
    split <;> rfl

/-- A link changes no kind. -/
lemma kind?_link (tree : Tree) (parent child id : NodeId) :
    (tree.link parent child).kind? id = tree.kind? id := by
  unfold kind?
  rw [get?_link]
  cases tree.get? id <;> rfl

/-- A link changes the parent of the child alone. -/
lemma parentLink?_link {child : NodeId} (present : child < tree.size) (parent id : NodeId) :
    (tree.link parent child).parentLink? id =
      if child = id then some parent else tree.parentLink? id := by
  unfold parentLink?
  rw [get?_link]
  cases found : tree.get? id with
  | none =>
    have beyond := get?_eq_none_iff.1 found
    have differs : child ≠ id := fun e => Nat.not_lt.2 beyond (e ▸ present)
    rw [if_neg differs]
    rfl
  | some node => rfl

/-- A link adds the child behind the children of the parent, and changes no other children. -/
lemma children_link {parent : NodeId} (present : parent < tree.size) (child id : NodeId) :
    (tree.link parent child).children id =
      if parent = id then tree.children id ++ [child] else tree.children id := by
  rw [children_eq, children_eq, get?_link]
  cases found : tree.get? id with
  | none =>
    have beyond := get?_eq_none_iff.1 found
    have differs : parent ≠ id := fun e => Nat.not_lt.2 beyond (e ▸ present)
    rw [if_neg differs]
    rfl
  | some node => rfl

/-! ### Steps -/

/-- What nodes are created as: elements with some attributes, and nodes with a content. -/
inductive Fresh : NodeKind → Prop where
  | element (tag : Text) (attributes : List (Text × Text)) :
    Fresh (.element (.ofPairs tag attributes))
  | text (content : Text) : Fresh (.text content)
  | data (content : Text) : Fresh (.data content)
  | comment (content : Text) : Fresh (.comment content)

/-- No document is created. -/
lemma Fresh.ne_document {kind : NodeKind} (fresh : Fresh kind) : kind ≠ .document := by
  rintro rfl
  cases fresh

/-- The steps that changes are made of. -/
inductive Step : Tree → Tree → Prop where
  /-- A new node, on its own. -/
  | create {tree : Tree} {kind : NodeKind} :
    Fresh kind →
    Step tree (tree.create kind)
  /-- Another value under a name of an element. -/
  | relabel {tree : Tree} {id : NodeId} {old : Element} {name value : Text} :
    tree.kind? id = some (.element old) →
    Step tree (tree.relabel id (old.setAttribute name value))
  /-- A link from a container to a node that has no parent yet. -/
  | link {tree : Tree} {parent child : NodeId} :
    tree.isElementLike parent →
    child < tree.size →
    tree.parentLink? child = none →
    Step tree (tree.link parent child)

/-- A node takes part in selection if it is there and may have children. -/
lemma isElementLike_iff {id : NodeId} :
    tree.isElementLike id ↔ ∃ kind, tree.kind? id = some kind ∧ kind.isContainer := by
  unfold isElementLike
  cases tree.kind? id <;> simp

/-- A node is attached if it is there and has no parent, and if its parent may have children. -/
lemma appendChild_eq_ok_iff {parent child : NodeId} {attached : Tree} :
    tree.appendChild parent child = .ok attached ↔
      tree.isElementLike parent ∧ child < tree.size ∧ tree.parentLink? child = none ∧
        attached = tree.link parent child := by
  have present : child < tree.size ↔ tree.get? child ≠ none := by
    rw [Ne, get?_eq_none_iff, Nat.not_le]
  unfold appendChild isElementLike kind? parentLink?
  rw [present]
  cases tree.get? parent with
  | none => simp
  | some above =>
    cases container : above.kind.isContainer with
    | false => simp [container]
    | true =>
      cases tree.get? child with
      | none => simp [container]
      | some below => cases attached' : below.parent <;> simp [container, attached', eq_comm]

/-- An attribute is set if the node is an element. -/
lemma setAttribute_eq_ok_iff {id : NodeId} {name value : Text} {changed : Tree} :
    tree.setAttribute id name value = .ok changed ↔
      ∃ old, tree.kind? id = some (.element old) ∧
        changed = tree.relabel id (old.setAttribute name value) := by
  unfold setAttribute kind?
  cases tree.get? id with
  | none => simp
  | some node => cases kind : node.kind <;> simp [kind, NodeKind.element?, relabel, eq_comm]

/-- Attaching a node is a link step, if it is not refused. -/
lemma step_of_appendChild {parent child : NodeId} {attached : Tree}
    (h : tree.appendChild parent child = .ok attached) : Step tree attached := by
  obtain ⟨container, present, parentless, rfl⟩ := appendChild_eq_ok_iff.1 h
  exact .link container present parentless

/-- Setting an attribute replaces an element, if it is not refused. -/
lemma step_of_setAttribute {id : NodeId} {name value : Text} {changed : Tree}
    (h : tree.setAttribute id name value = .ok changed) : Step tree changed := by
  obtain ⟨old, isElement, rfl⟩ := setAttribute_eq_ok_iff.1 h
  exact .relabel isElement

/-- A property that every step keeps is kept by creating a node and attaching it. -/
lemma appendNew_of_step {P : Tree → Prop} (step : ∀ {s t}, Step s t → P s → P t)
    {parent : NodeId} {kind : NodeKind} (fresh : Fresh kind) (h : P tree) :
    P (tree.appendNew parent kind).2 := by
  have created := step (.create fresh) h
  unfold appendNew
  dsimp only
  split
  · exact created
  · rename_i attached
    exact step (step_of_appendChild attached) created

/-- A property of the new tree that every step keeps is one of all trees that are built. -/
theorem Built.of_step {P : Tree → Prop} (new : P .new) (step : ∀ {s t}, Step s t → P s → P t)
    (built : Built tree) : P tree := by
  induction built with
  | new => exact new
  | @after tree change _ ih =>
    cases change with
    | createElement tag => exact step (.create (.element tag [])) ih
    | createText content => exact step (.create (.text content)) ih
    | createData content => exact step (.create (.data content)) ih
    | createComment content => exact step (.create (.comment content)) ih
    | appendChild parent child =>
      unfold Tree.after
      dsimp only
      split
      · rename_i attached
        exact step (step_of_appendChild attached) ih
      · exact ih
    | setAttribute id name value =>
      unfold Tree.after
      dsimp only
      split
      · rename_i changed
        exact step (step_of_setAttribute changed) ih
      · exact ih
    | appendElement parent tag attributes =>
      exact appendNew_of_step step (.element tag attributes) ih
    | appendText parent content => exact appendNew_of_step step (.text content) ih
    | appendData parent content => exact appendNew_of_step step (.data content) ih

/-- Changes lead to a tree that is built. -/
lemma built_run (changes : List Change) : Built (run changes) := by
  suffices h : ∀ {tree}, Built tree → Built (changes.foldl Tree.after tree) from h .new
  induction changes with
  | nil => exact id
  | cons change changes ih => exact fun built => ih (.after change built)

/-! ### The invariant -/

/-- Links go both ways and lead down from containers; the document is the node of number zero. -/
structure Linked (tree : Tree) : Prop where
  mem_children_iff : ∀ {parent child}, child ∈ tree.children parent ↔
    tree.parentLink? child = some parent
  nodup_children : ∀ id, (tree.children id).Nodup
  container : ∀ {parent child}, child ∈ tree.children parent → tree.isElementLike parent
  present : ∀ {parent child}, child ∈ tree.children parent → child < tree.size
  document_iff : ∀ {id}, tree.kind? id = some .document ↔ id = documentId

/-- In the new tree there is nothing to be linked. -/
lemma Linked.new : Linked .new where
  mem_children_iff {parent child} := by
    rw [children_eq]
    cases parent <;> cases child <;> simp [parentLink?, get?, Tree.new]
  nodup_children id := by
    rw [children_eq]
    cases id <;> simp [get?, Tree.new]
  container {parent child} h := by
    rw [children_eq] at h
    cases parent <;> simp [get?, Tree.new] at h
  present {parent child} h := by
    rw [children_eq] at h
    cases parent <;> simp [get?, Tree.new] at h
  document_iff {id} := by
    cases id <;> simp [kind?, get?, Tree.new, documentId]

/-- Old nodes that may have children still may when a node is created. -/
lemma isElementLike_create {id : NodeId} (container : tree.isElementLike id) (kind : NodeKind) :
    (tree.create kind).isElementLike id := by
  obtain ⟨above, found, isContainer⟩ := isElementLike_iff.1 container
  apply isElementLike_iff.2
  rw [kind?_create, if_neg (Nat.ne_of_lt (lt_size_of_kind? found))]
  exact ⟨above, found, isContainer⟩

/-- Creating a node keeps links in order. -/
lemma Linked.create (linked : Linked tree) {kind : NodeKind} (notDocument : kind ≠ .document) :
    Linked (tree.create kind) where
  mem_children_iff {parent child} := by
    rw [children_create, parentLink?_create]
    exact linked.mem_children_iff
  nodup_children id := by
    rw [children_create]
    exact linked.nodup_children id
  container {parent child} h := by
    rw [children_create] at h
    exact isElementLike_create (linked.container h) kind
  present h := by
    rw [children_create] at h
    rw [size_create]
    exact Nat.lt_succ_of_lt (linked.present h)
  document_iff {id} := by
    have first := lt_size_of_kind? (linked.document_iff.2 rfl)
    rw [kind?_create]
    split
    · rename_i e
      constructor
      · intro h
        cases h
        exact absurd rfl notDocument
      · intro h
        exact absurd (e.symm.trans h) (Nat.ne_of_gt first)
    · exact linked.document_iff

/-- Replacing an element by another one keeps links in order. -/
lemma Linked.relabel (linked : Linked tree) {i : NodeId} {old : Element}
    (isElement : tree.kind? i = some (.element old)) (new : Element) :
    Linked (tree.relabel i new) where
  mem_children_iff {parent child} := by
    rw [children_relabel, parentLink?_relabel]
    exact linked.mem_children_iff
  nodup_children id := by
    rw [children_relabel]
    exact linked.nodup_children id
  container {parent child} h := by
    rw [children_relabel] at h
    rw [isElementLike_iff, kind?_relabel isElement]
    split
    · exact ⟨_, rfl, rfl⟩
    · exact isElementLike_iff.1 (linked.container h)
  present {parent child} h := by
    rw [children_relabel] at h
    simpa [size, Tree.relabel] using linked.present h
  document_iff {id} := by
    rw [kind?_relabel isElement]
    split
    · rename_i e
      constructor
      · intro h
        cases h
      · intro h
        rw [e, linked.document_iff.2 h] at isElement
        cases isElement
    · exact linked.document_iff

/-- Linking a node without a parent to a container keeps links in order. -/
lemma Linked.link (linked : Linked tree) {parent child : NodeId}
    (container : tree.isElementLike parent) (present : child < tree.size)
    (parentless : tree.parentLink? child = none) : Linked (tree.link parent child) := by
  obtain ⟨above, found, -⟩ := isElementLike_iff.1 container
  have parentPresent := lt_size_of_kind? found
  -- What has no parent is in no list of children, so it is new in the one it is added to.
  have unlinked (id : NodeId) : child ∉ tree.children id := by
    intro h
    rw [linked.mem_children_iff, parentless] at h
    cases h
  refine ⟨?_, ?_, ?_, ?_, ?_⟩
  · intro p c
    rw [children_link parentPresent, parentLink?_link present]
    by_cases hp : parent = p <;> by_cases hc : child = c
    · simp [hp, hc]
    · simp [hp, hc, Ne.symm hc, linked.mem_children_iff]
    · subst hc
      simp [hp, unlinked p]
    · simp [hp, hc, linked.mem_children_iff]
  · intro id
    rw [children_link parentPresent]
    split
    · refine List.nodup_append.2 ⟨linked.nodup_children id, List.pairwise_singleton _ child, ?_⟩
      intro a ha b hb e
      rw [e, List.mem_singleton.1 hb] at ha
      exact unlinked id ha
    · exact linked.nodup_children id
  · intro p c h
    rw [isElementLike_iff, kind?_link]
    rw [children_link parentPresent] at h
    split at h
    · rename_i hp
      exact isElementLike_iff.1 (hp ▸ container)
    · exact isElementLike_iff.1 (linked.container h)
  · intro p c h
    rw [size_link]
    rw [children_link parentPresent] at h
    split at h
    · rcases List.mem_append.1 h with h | h
      · exact linked.present h
      · exact List.mem_singleton.1 h ▸ present
    · exact linked.present h
  · intro id
    rw [kind?_link]
    exact linked.document_iff

/-- Every step keeps the links in order. -/
theorem Linked.step {next : Tree} (step : Step tree next) (linked : Linked tree) : Linked next := by
  cases step with
  | create fresh => exact linked.create fresh.ne_document
  | relabel isElement => exact linked.relabel isElement _
  | link container present parentless => exact linked.link container present parentless

/-- In a tree that is built the links are in order. -/
theorem Built.linked (built : Built tree) : Linked tree :=
  built.of_step .new fun step => .step step

end Tree
end TreeQuery
