import TreeQuery.Proofs.Tree.Ancestry

/-!
# What changes leave alone

A change that is refused leaves the tree as it was, except that a node which was created to be
attached stays behind on its own.  A change that is not refused does what it says to one link or one
attribute and leaves everything else alone.  Main statement: `Built.changes_local`.
-/

namespace TreeQuery.Tree

variable {tree next : Tree} {parent child id : NodeId} {name value : Text} {kind : NodeKind}
  {e : TreeError}

/-! ### Attaching -/

/-- Why a node is not attached.  Where there are several reasons the first one is given. -/
inductive Refuses (tree : Tree) (parent child : NodeId) : TreeError → Prop where
  | noParent :
    tree.size ≤ parent →
    Refuses tree parent child (.nodeNotFound parent)
  | noContainer :
    parent < tree.size →
    ¬ tree.isElementLike parent →
    Refuses tree parent child (.notAContainer parent child)
  | noChild :
    tree.isElementLike parent →
    tree.size ≤ child →
    Refuses tree parent child (.nodeNotFound child)
  | attached {above : NodeId} :
    tree.isElementLike parent →
    tree.parentLink? child = some above →
    Refuses tree parent child (.alreadyAttached child)

/-- One tree is another one with a node attached: only the parent of the one node and the children
of the other differ. -/
structure Attached (tree : Tree) (parent child : NodeId) (next : Tree) : Prop where
  size_eq : next.size = tree.size
  get?_of_ne : ∀ id, id ≠ parent → id ≠ child → next.get? id = tree.get? id
  kind?_eq : ∀ id, next.kind? id = tree.kind? id
  parentLink?_eq : ∀ id, next.parentLink? id =
    if id = child then some parent else tree.parentLink? id
  children_eq : ∀ id, next.children id =
    if id = parent then tree.children id ++ [child] else tree.children id

/-- The document and the elements take part in selection. -/
lemma isElementLike_iff_isElement :
    tree.isElementLike id ↔ tree.kind? id = some .document ∨ tree.isElement id := by
  unfold isElementLike isElement
  cases tree.kind? id with
  | none => simp
  | some kind => cases kind <;> simp [NodeKind.isContainer, NodeKind.isElement]

/-- Whether a node takes part in selection can be told from its kind. -/
lemma isElementLike_of_get? {node : Node} (found : tree.get? id = some node) :
    tree.isElementLike id = node.kind.isContainer := by
  rw [isElementLike, kind?_of_get? found]
  rfl

/-- Whether a node is attached to a container depends on the node. -/
lemma appendChild_of_container (container : tree.isElementLike parent) :
    tree.appendChild parent child =
      match tree.get? child with
      | none => .error (.nodeNotFound child)
      | some below =>
        if below.parent.isSome then .error (.alreadyAttached child)
        else .ok (tree.link parent child) := by
  obtain ⟨kind, found, -⟩ := isElementLike_iff.1 container
  obtain ⟨above, found⟩ := exists_get?_of_lt (lt_size_of_kind? found)
  rw [isElementLike_of_get? found] at container
  rw [appendChild, found]
  exact if_pos container

/-- A reason that there is, the first one, is given. -/
lemma Refuses.appendChild_eq (refuses : tree.Refuses parent child e) :
    tree.appendChild parent child = .error e := by
  cases refuses with
  | noParent missing =>
    rw [appendChild, get?_eq_none_iff.2 missing]
  | noContainer present other =>
    obtain ⟨above, found⟩ := exists_get?_of_lt present
    rw [isElementLike_of_get? found] at other
    rw [appendChild, found]
    exact if_neg other
  | noChild container missing =>
    rw [appendChild_of_container container, get?_eq_none_iff.2 missing]
  | @attached above container linked =>
    obtain ⟨below, found, has⟩ := Option.bind_eq_some_iff.1 linked
    rw [appendChild_of_container container, found]
    exact if_pos (Option.isSome_of_eq_some has)

/-- There is a reason wherever a node is not attached. -/
lemma exists_refuses (unattached : ∀ next, tree.appendChild parent child ≠ .ok next) :
    ∃ e, tree.Refuses parent child e := by
  rcases Nat.lt_or_ge parent tree.size with present | missing
  case inr => exact ⟨_, .noParent missing⟩
  by_cases container : tree.isElementLike parent
  case neg => exact ⟨_, .noContainer present container⟩
  rcases Nat.lt_or_ge child tree.size with present' | missing
  case inr => exact ⟨_, .noChild container missing⟩
  cases linked : tree.parentLink? child with
  | some above => exact ⟨_, .attached container linked⟩
  | none => exact absurd (appendChild_eq_ok_iff.2 ⟨container, present', linked, rfl⟩) (unattached _)

/-- The reason that is given is the first one that there is. -/
lemma appendChild_eq_error_iff :
    tree.appendChild parent child = .error e ↔ tree.Refuses parent child e := by
  constructor
  · intro refused
    have unattached (next : Tree) : tree.appendChild parent child ≠ .ok next := by
      rw [refused]
      exact nofun
    obtain ⟨e', refuses⟩ := exists_refuses unattached
    cases refused.symm.trans refuses.appendChild_eq
    exact refuses
  · exact Refuses.appendChild_eq

/-- Attaching a node changes the one link. -/
lemma attached_of_appendChild (h : tree.appendChild parent child = .ok next) :
    Attached tree parent child next := by
  obtain ⟨container, present, -, rfl⟩ := appendChild_eq_ok_iff.1 h
  obtain ⟨kind, found, -⟩ := isElementLike_iff.1 container
  have present' := lt_size_of_kind? found
  refine ⟨size_link tree parent child, ?_, kind?_link tree parent child, ?_, ?_⟩
  · intro id notParent notChild
    rw [get?_link]
    simp only [if_neg (Ne.symm notParent), if_neg (Ne.symm notChild), Option.map_id']
  · intro id
    rw [parentLink?_link present]
    exact if_congr eq_comm rfl rfl
  · intro id
    rw [children_link present']
    exact if_congr eq_comm rfl rfl

/-! ### Setting an attribute -/

/-- One tree is another one with an attribute set: only that attribute of the one element differs.
-/
structure AttributeSet (tree : Tree) (id : NodeId) (name value : Text) (next : Tree) : Prop where
  size_eq : next.size = tree.size
  get?_of_ne : ∀ other, other ≠ id → next.get? other = tree.get? other
  parentLink?_eq : next.parentLink? id = tree.parentLink? id
  children_eq : next.children id = tree.children id
  element : ∃ old new, tree.element? id = some old ∧ next.element? id = some new ∧
    new.tag = old.tag ∧ ∀ key, new.attributes.get? key =
      if key = Text.lower name then some value else old.attributes.get? key

/-- Attributes can be set of elements and of nothing else. -/
lemma setAttribute_isOk_iff :
    (∃ next, tree.setAttribute id name value = .ok next) ↔ tree.isElement id := by
  rw [isElement_iff]
  constructor
  · intro h
    obtain ⟨next, set⟩ := h
    obtain ⟨old, isElement, -⟩ := setAttribute_eq_ok_iff.1 set
    exact ⟨old, element?_eq_some_iff.2 isElement⟩
  · intro h
    obtain ⟨old, isElement⟩ := h
    exact ⟨_, setAttribute_eq_ok_iff.2 ⟨old, element?_eq_some_iff.1 isElement, rfl⟩⟩

/-- Setting an attribute changes the one element. -/
lemma attributeSet_of_setAttribute (h : tree.setAttribute id name value = .ok next) :
    AttributeSet tree id name value next := by
  obtain ⟨old, isElement, rfl⟩ := setAttribute_eq_ok_iff.1 h
  refine ⟨by simp [size, relabel], ?_, parentLink?_relabel tree id id _,
    children_relabel tree id id _, ?_⟩
  · intro other differs
    rw [get?_relabel]
    simp only [if_neg (Ne.symm differs), Option.map_id']
  · refine ⟨old, old.setAttribute name value, ?_, ?_, rfl, ?_⟩
    · exact element?_eq_some_iff.2 isElement
    · apply element?_eq_some_iff.2
      rw [kind?_relabel isElement, if_pos rfl]
    · exact old.attributes.get?_insert (Text.lower name) value

/-! ### Creating and attaching -/

/-- One tree is another one with a new node, which has no parent, no children, and is nobody's
child. -/
structure Created (tree : Tree) (kind : NodeKind) (next : Tree) : Prop where
  size_eq : next.size = tree.size + 1
  get?_of_ne : ∀ id, id ≠ tree.size → next.get? id = tree.get? id
  get?_size : next.get? tree.size = some ⟨kind, none, []⟩
  unlisted : ∀ id, tree.size ∉ next.children id

/-- A new node is alone under its number. -/
lemma Linked.created (linked : Linked tree) (kind : NodeKind) :
    Created tree kind (tree.create kind) where
  size_eq := size_create tree kind
  get?_of_ne id differs := by
    rw [get?_create, if_neg differs]
  get?_size := by
    rw [get?_create, if_pos rfl]
  unlisted id := by
    rw [children_create]
    intro member
    exact Nat.lt_irrefl _ (linked.present member)

/-- A node that cannot be attached stays behind. -/
lemma appendNew_of_error (h : (tree.appendNew parent kind).1 = .error e) :
    (tree.appendNew parent kind).2 = tree.create kind := by
  unfold appendNew at h ⊢
  dsimp only at h ⊢
  split at h
  · rfl
  · cases h

/-! ### All changes -/

/-- A node is attached exactly if it is there and has no parent and if its parent is the document or
an element, and then nothing but the link is new; an attribute is set exactly if the node is an
element, and then nothing but its value is new.  Otherwise the tree stays as it was.  If a node that
was created cannot be attached, it stays in the tree on its own, and nothing else is new. -/
theorem Built.changes_local (built : Built tree) :
    (∀ parent child,
      ((∃ next, tree.appendChild parent child = .ok next) ↔
        (tree.kind? parent = some .document ∨ tree.isElement parent) ∧
          child < tree.size ∧ tree.parentLink? child = none) ∧
      (∀ e, tree.appendChild parent child = .error e ↔ tree.Refuses parent child e) ∧
      (∀ next, tree.appendChild parent child = .ok next →
        tree.after (.appendChild parent child) = next ∧ Attached tree parent child next) ∧
      ∀ e, tree.appendChild parent child = .error e →
        tree.after (.appendChild parent child) = tree) ∧
    (∀ id name value,
      ((∃ next, tree.setAttribute id name value = .ok next) ↔ tree.isElement id) ∧
      (∀ next, tree.setAttribute id name value = .ok next →
        tree.after (.setAttribute id name value) = next ∧
          AttributeSet tree id name value next) ∧
      ∀ e, tree.setAttribute id name value = .error e →
        tree.after (.setAttribute id name value) = tree) ∧
    (∀ parent tag attributes e, (tree.appendElement parent tag attributes).1 = .error e →
      Created tree (.element (.ofPairs tag attributes))
        (tree.after (.appendElement parent tag attributes))) ∧
    (∀ parent content e, (tree.appendText parent content).1 = .error e →
      Created tree (.text content) (tree.after (.appendText parent content))) ∧
    ∀ parent content e, (tree.appendData parent content).1 = .error e →
      Created tree (.data content) (tree.after (.appendData parent content)) := by
  have created {parent : NodeId} {kind : NodeKind} {e : TreeError}
      (refused : (tree.appendNew parent kind).1 = .error e) :
      Created tree kind (tree.appendNew parent kind).2 := by
    rw [appendNew_of_error refused]
    exact built.linked.created kind
  refine ⟨fun parent child => ⟨?_, ?_, ?_, ?_⟩, fun id name value => ⟨?_, ?_, ?_⟩, ?_, ?_, ?_⟩
  · rw [← isElementLike_iff_isElement]
    simp only [appendChild_eq_ok_iff, exists_and_left, exists_eq, and_true]
  · exact fun e => appendChild_eq_error_iff
  · intro next attached
    refine ⟨?_, attached_of_appendChild attached⟩
    rw [Tree.after, attached]
  · intro e refused
    rw [Tree.after, refused]
  · exact setAttribute_isOk_iff
  · intro next set
    refine ⟨?_, attributeSet_of_setAttribute set⟩
    rw [Tree.after, set]
  · intro e refused
    rw [Tree.after, refused]
  · exact fun parent tag attributes e refused => created refused
  · exact fun parent content e refused => created refused
  · exact fun parent content e refused => created refused

/-- The tree `twoItems` with an element that is not attached. -/
def oneLoose : Tree := twoItems.after (.createElement "B".toList)

/-- The loose element is attached to itself, which is accepted, and to a text node, which is not;
and nothing can be appended to the text node. -/
theorem changes_local_loose :
    Built oneLoose ∧
    oneLoose.appendChild 3 6 = .error (.notAContainer 3 6) ∧
    oneLoose.after (.appendChild 3 6) = oneLoose ∧
    Attached oneLoose 6 6 (oneLoose.after (.appendChild 6 6)) ∧
    AttributeSet oneLoose 6 "ID".toList "x".toList
      (oneLoose.after (.setAttribute 6 "ID".toList "x".toList)) ∧
    Created oneLoose (.text "c".toList) (oneLoose.after (.appendText 3 "c".toList)) := by
  have built : Built oneLoose := .after _ (built_run _)
  obtain ⟨attach, set, -, text, -⟩ := built.changes_local
  obtain ⟨-, -, -, refused⟩ := attach 3 6
  obtain ⟨accepted, -, attached, -⟩ := attach 6 6
  obtain ⟨settable, changed, -⟩ := set 6 "ID".toList "x".toList
  obtain ⟨next, ok⟩ := accepted.2 (by decide)
  obtain ⟨next', ok'⟩ := settable.2 (by decide)
  have refused_eq : oneLoose.appendChild 3 6 = .error (.notAContainer 3 6) := by decide
  refine ⟨built, refused_eq, refused _ refused_eq, ?_, ?_, ?_⟩
  · obtain ⟨e, holds⟩ := attached next ok
    exact e ▸ holds
  · obtain ⟨e, holds⟩ := changed next' ok'
    exact e ▸ holds
  · exact text 3 "c".toList (.notAContainer 3 7) (by decide)

end TreeQuery.Tree
