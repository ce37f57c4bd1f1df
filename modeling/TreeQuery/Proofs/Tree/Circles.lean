import TreeQuery.Proofs.Tree.Content
import TreeQuery.Proofs.Tree.DocumentOrder
import TreeQuery.Proofs.Tree.Relatives

/-!
# Circles

Whether the child is the parent itself or stands above it, and whether it is the document, is not
looked at when a node is attached; so changes can close a circle of links, or put the document below
a node.  Here is which changes do so.  As links are never taken back, a tree is rooted after a run
exactly if every change of the run was harmless when it was made.  Main statement: `run_rooted_iff`.
-/

namespace TreeQuery.Tree
open Relation

variable {tree : Tree}

/-- Nothing is above itself, and nothing is above the document. -/
structure Rooted (tree : Tree) : Prop where
  acyclic : ∀ id, ¬ tree.Ancestor id id
  parentless : tree.parentLink? documentId = none

/-- A tree that is built is well-formed if every way up ends. -/
lemma Rooted.wellFormed (rooted : Rooted tree) (built : Built tree) : WellFormed tree :=
  ⟨built, rooted.acyclic, rooted.parentless⟩

/-- In the new tree every way up has ended. -/
lemma rooted_new : Rooted .new where
  acyclic id cycle := by
    obtain ⟨parent, -, link⟩ := ancestor_iff_parent.1 cycle
    cases id <;> cases link
  parentless := rfl

/-! ### One step -/

/-- Whether every way up ends can be told from the parents. -/
lemma rooted_congr {left right : Tree} (same : ∀ id, left.parentLink? id = right.parentLink? id) :
    Rooted left ↔ Rooted right := by
  have links : left.ParentOf = right.ParentOf := by
    funext parent child
    unfold ParentOf
    rw [same]
  have ancestors : left.Ancestor = right.Ancestor := by
    unfold Ancestor
    rw [links]
  constructor
  · intro h
    exact ⟨ancestors ▸ h.acyclic, same documentId ▸ h.parentless⟩
  · intro h
    exact ⟨ancestors ▸ h.acyclic, (same documentId).trans h.parentless⟩

/-- A new node starts no circle. -/
lemma rooted_create_iff {kind : NodeKind} : Rooted (tree.create kind) ↔ Rooted tree :=
  rooted_congr (parentLink?_create tree kind)

/-- Replacing an element starts no circle. -/
lemma rooted_relabel_iff {id : NodeId} {element : Element} :
    Rooted (tree.relabel id element) ↔ Rooted tree :=
  rooted_congr fun other => parentLink?_relabel tree id other element

section
variable {parent child : NodeId}

/-- After a link a node has the parent that it had, or it is the child of the link. -/
lemma parentOf_link (present : child < tree.size) (parentless : tree.parentLink? child = none)
    {above below : NodeId} :
    (tree.link parent child).ParentOf above below ↔
      tree.ParentOf above below ∨ above = parent ∧ below = child := by
  unfold ParentOf
  rw [parentLink?_link present]
  split
  · rename_i e
    subst e
    simp [parentless, eq_comm]
  · rename_i differ
    simp [Ne.symm differ]

/-- A way down either does not use the new link, or leads to its parent and on from its child. -/
lemma ancestor_link_iff (present : child < tree.size)
    (parentless : tree.parentLink? child = none) {above below : NodeId} :
    (tree.link parent child).Ancestor above below ↔
      tree.Ancestor above below ∨ tree.InSubtree above parent ∧ tree.InSubtree child below := by
  have links {above below : NodeId} : (tree.link parent child).ParentOf above below ↔
      tree.ParentOf above below ∨ above = parent ∧ below = child :=
    parentOf_link present parentless
  have keeps : tree.ParentOf ≤ (tree.link parent child).ParentOf :=
    fun _ _ old => links.2 (.inl old)
  constructor
  · intro h
    induction h with
    | single link =>
      rcases links.1 link with old | ⟨rfl, rfl⟩
      · exact .inl (.single old)
      · exact .inr ⟨.refl, .refl⟩
    | tail _ link ih =>
      rcases links.1 link with old | ⟨rfl, rfl⟩
      · exact ih.imp (·.tail old) fun ⟨up, down⟩ => ⟨up, down.tail old⟩
      · -- The new link is taken again, or for the first time.
        exact .inr ⟨ih.elim (·.to_reflTransGen) And.left, .refl⟩
  · intro h
    rcases h with old | ⟨up, down⟩
    · exact TransGen.mono keeps _ _ old
    · have crossing : (tree.link parent child).Ancestor parent child :=
        .single (links.2 (.inr ⟨rfl, rfl⟩))
      exact (TransGen.trans_right (ReflTransGen.mono keeps _ _ up) crossing).trans_left
        (ReflTransGen.mono keeps _ _ down)

/-- A new link keeps a tree rooted unless its child is the document, or has the parent in its
subtree. -/
lemma rooted_link_iff (present : child < tree.size) (parentless : tree.parentLink? child = none) :
    Rooted (tree.link parent child) ↔
      Rooted tree ∧ child ≠ documentId ∧ ¬ tree.InSubtree child parent := by
  constructor
  · intro rooted
    have top := rooted.parentless
    rw [parentLink?_link present] at top
    refine ⟨⟨fun id cycle => ?_, ?_⟩, ?_, fun circle => ?_⟩
    · exact rooted.acyclic id ((ancestor_link_iff present parentless).2 (.inl cycle))
    · split at top
      · cases top
      · exact top
    · intro e
      rw [if_pos e] at top
      cases top
    · exact rooted.acyclic parent
        ((ancestor_link_iff present parentless).2 (.inr ⟨.refl, circle⟩))
  · intro h
    obtain ⟨rooted, below, apart⟩ := h
    refine ⟨fun id cycle => ?_, ?_⟩
    · rcases (ancestor_link_iff present parentless).1 cycle with old | ⟨up, down⟩
      · exact rooted.acyclic id old
      · exact apart (down.trans up)
    · rw [parentLink?_link present, if_neg below]
      exact rooted.parentless

end

/-! ### Changes -/

/-- Whether a change to the tree closes no circle and leaves the document at the top.  An element
that is created below the number that it gets is created below itself. -/
def Harmless (tree : Tree) : Change → Prop
  | .appendChild parent child => ∀ attached, tree.appendChild parent child = .ok attached →
    child ≠ documentId ∧ ¬ tree.InSubtree child parent
  | .appendElement parent _ _ => parent ≠ tree.size
  | _ => True

/-- Whether every change is harmless to the tree that it finds. -/
def AllHarmless (tree : Tree) : List Change → Prop
  | [] => True
  | change :: later => tree.Harmless change ∧ AllHarmless (tree.after change) later

/-- Attaching a node keeps every way up finite exactly if it is not attached below itself. -/
lemma rooted_after_appendChild_iff {parent child : NodeId} :
    Rooted (tree.after (.appendChild parent child)) ↔
      Rooted tree ∧ tree.Harmless (.appendChild parent child) := by
  unfold after Harmless
  dsimp only
  cases result : tree.appendChild parent child with
  | error e => simp
  | ok attached =>
    obtain ⟨-, present, parentless, rfl⟩ := appendChild_eq_ok_iff.1 result
    simp [rooted_link_iff present parentless]

/-- To create a node and attach it is to do the one and then the other. -/
lemma appendNew_eq_after (parent : NodeId) (kind : NodeKind) :
    (tree.appendNew parent kind).2 =
      (tree.create kind).after (.appendChild parent tree.size) := by
  unfold appendNew after
  dsimp only
  cases (tree.create kind).appendChild parent tree.size <;> rfl

/-- Nothing is below a node that was just created. -/
lemma Linked.inSubtree_size_iff (linked : Linked tree) {kind : NodeKind} {id : NodeId} :
    (tree.create kind).InSubtree tree.size id ↔ id = tree.size := by
  rw [inSubtree_iff]
  refine or_iff_left fun below => ?_
  obtain ⟨child, link, -⟩ := ancestor_iff_child.1 below
  have old : tree.parentLink? child = some tree.size :=
    (parentLink?_create tree kind child).symm.trans link
  obtain ⟨kind, found, -⟩ :=
    isElementLike_iff.1 (linked.container (linked.mem_children_iff.2 old))
  exact Nat.lt_irrefl _ (lt_size_of_kind? found)

/-- A new node starts a circle only if it is attached to itself. -/
lemma rooted_appendNew_iff (linked : Linked tree) {parent : NodeId} {kind : NodeKind} :
    Rooted (tree.appendNew parent kind).2 ↔
      Rooted tree ∧ (kind.isContainer → parent ≠ tree.size) := by
  rw [appendNew_eq_after, rooted_after_appendChild_iff, rooted_create_iff]
  refine and_congr_right fun _ => ?_
  have first := lt_size_of_kind? (linked.document_iff.2 rfl)
  unfold Harmless
  simp only [appendChild_eq_ok_iff, linked.inSubtree_size_iff]
  constructor
  · rintro harmless container rfl
    refine (harmless _ ⟨isElementLike_iff.2 ⟨kind, ?_, container⟩, ?_, ?_, rfl⟩).2 rfl
    · rw [kind?_create, if_pos rfl]
    · rw [size_create]
      exact Nat.lt_succ_self _
    · rw [parentLink?_create, parentLink?, get?_eq_none_iff.2 (Nat.le_refl _)]
      rfl
  · rintro apart attached ⟨container, -⟩
    refine ⟨Nat.ne_of_gt first, ?_⟩
    rintro rfl
    obtain ⟨kind', found, container⟩ := isElementLike_iff.1 container
    rw [kind?_create, if_pos rfl] at found
    cases found
    exact apart container rfl

/-- A change leaves a tree rooted exactly if it was so and the change is harmless. -/
lemma rooted_after_iff (linked : Linked tree) (change : Change) :
    Rooted (tree.after change) ↔ Rooted tree ∧ tree.Harmless change := by
  cases change with
  | appendChild parent child => exact rooted_after_appendChild_iff
  | setAttribute id name value =>
    refine Iff.trans ?_ (and_iff_left trivial).symm
    unfold after
    dsimp only
    cases result : tree.setAttribute id name value with
    | error e => rfl
    | ok changed =>
      obtain ⟨old, -, rfl⟩ := setAttribute_eq_ok_iff.1 result
      exact rooted_relabel_iff
  | appendElement parent tag attributes =>
    exact (rooted_appendNew_iff linked).trans (and_congr_right' (forall_prop_of_true rfl))
  | appendText parent content =>
    exact (rooted_appendNew_iff linked).trans (and_congr_right' (iff_of_true nofun trivial))
  | appendData parent content =>
    exact (rooted_appendNew_iff linked).trans (and_congr_right' (iff_of_true nofun trivial))
  | _ => exact rooted_create_iff.trans (and_iff_left trivial).symm

/-- Several changes keep every way up finite exactly if each one does when it is made. -/
lemma rooted_foldl_iff (built : Built tree) (changes : List Change) :
    Rooted (changes.foldl after tree) ↔ Rooted tree ∧ tree.AllHarmless changes := by
  induction changes generalizing tree with
  | nil => exact (and_iff_left trivial).symm
  | cons change later ih =>
    rw [List.foldl_cons, ih (built.after change), rooted_after_iff built.linked, and_assoc]
    rfl

/-! ### Walks -/

/-- The way up from any node ends at one without a parent. -/
lemma WellFormed.exists_top (wf : WellFormed tree) (id : NodeId) :
    ∃ top, tree.InSubtree top id ∧ tree.parentLink? top = none := by
  induction e : tree.depth id using Nat.strong_induction_on generalizing id with
  | _ n ih =>
    cases link : tree.parentLink? id with
    | none => exact ⟨id, .refl, link⟩
    | some parent =>
      have higher := wf.depth_lt link (wf.parent_present link)
      obtain ⟨top, above, ended⟩ := ih _ (e ▸ higher) parent rfl
      exact ⟨top, above.tail link, ended⟩

/-- No walk over a well-formed tree is cut short by its bound. -/
lemma WellFormed.walks_end (wf : WellFormed tree) (root id : NodeId) {steps : Nat}
    (enough : tree.size ≤ steps) :
    tree.descendantsWithin steps id = tree.descendants id ∧
    Text.collapse (tree.textWithin steps id) = tree.text id ∧
    tree.visit steps [id] = tree.elementsFrom id ∧
    tree.visit steps (tree.elementChildren id) = tree.elementsBelow id ∧
    tree.climb root steps id = tree.ancestorsWithin root id := by
  refine ⟨?_, ?_, ?_, ?_, ?_⟩
  · induction steps, enough using Nat.le_induction with
    | base => rfl
    | succ steps enough ih =>
      rw [wf.descendantsWithin_succ ((count_le_size _).trans enough), ih]
  · induction steps, enough using Nat.le_induction with
    | base => rfl
    | succ steps enough ih =>
      rw [wf.textWithin_succ fun present => (wf.height_lt_size present).trans_le enough, ih]
  · rw [wf.visit_root id enough, wf.elementsFrom_eq]
  · rw [wf.visit_elementChildren id enough, wf.elementsBelow_eq]
  · induction steps, enough using Nat.le_induction with
    | base => rfl
    | succ steps enough ih =>
      rw [wf.climb_succ ((count_le_size _).trans enough), ih]

/-! ### Runs -/

/-- After a run nothing is above itself and nothing is above the document exactly if every change of
the run was harmless when it was made.  Then every way up ends, and every walk comes to its end
within as many steps as there are nodes. -/
theorem run_rooted_iff (changes : List Change) :
    ((∀ id, ¬ (run changes).Ancestor id id) ∧ (run changes).parentLink? documentId = none ↔
      new.AllHarmless changes) ∧
    (new.AllHarmless changes → ∀ root id,
      (∃ top, (run changes).InSubtree top id ∧ (run changes).parentLink? top = none) ∧
      ∀ steps ≥ (run changes).size,
        (run changes).descendantsWithin steps id = (run changes).descendants id ∧
        Text.collapse ((run changes).textWithin steps id) = (run changes).text id ∧
        (run changes).visit steps [id] = (run changes).elementsFrom id ∧
        (run changes).visit steps ((run changes).elementChildren id) =
          (run changes).elementsBelow id ∧
        (run changes).climb root steps id = (run changes).ancestorsWithin root id) := by
  have rooted_iff : Rooted (run changes) ↔ new.AllHarmless changes :=
    (rooted_foldl_iff .new changes).trans (and_iff_right rooted_new)
  constructor
  · rw [← rooted_iff]
    exact ⟨fun h => ⟨h.1, h.2⟩, fun h => ⟨h.1, h.2⟩⟩
  · intro harmless root id
    have wf := (rooted_iff.2 harmless).wellFormed (built_run changes)
    exact ⟨wf.exists_top id, fun steps enough => wf.walks_end root id enough⟩

/-- The way up from an item of a list. -/
theorem run_rooted_item :
    new.AllHarmless [.appendElement 0 "ul".toList [], .appendElement 1 "li".toList []] ∧
    ∃ top, (run [.appendElement 0 "ul".toList [], .appendElement 1 "li".toList []]).InSubtree top 2 ∧
      (run [.appendElement 0 "ul".toList [], .appendElement 1 "li".toList []]).parentLink? top =
        none := by
  have harmless : new.AllHarmless
      [.appendElement 0 "ul".toList [], .appendElement 1 "li".toList []] := by
    have second : 1 ≠ (new.after (.appendElement 0 "ul".toList [])).size := by decide
    exact ⟨Nat.zero_ne_one, second, trivial⟩
  exact ⟨harmless, ((run_rooted_iff _).2 harmless 0 2).1⟩

/-- A paragraph below the document, and then the document below the paragraph. -/
def circle : Tree := run [.appendElement 0 "p".toList [], .appendChild 1 0]

/-- The document has a parent and is above itself, and a walk that starts there has no end: every
further level has a node. -/
theorem circle_endless :
    circle.parentLink? documentId = some 1 ∧ circle.Ancestor documentId documentId ∧
    ∀ depth, (circle.descendantsWithin depth documentId).length = depth := by
  have up : circle.parentLink? documentId = some 1 := by decide
  have down : circle.parentLink? 1 = some documentId := by decide
  refine ⟨up, .tail (.single down) up, fun depth => ?_⟩
  have around (depth : Nat) : (circle.descendantsWithin depth 0).length = depth ∧
      (circle.descendantsWithin depth 1).length = depth := by
    induction depth with
    | zero => exact ⟨rfl, rfl⟩
    | succ depth ih =>
      have first : circle.children 0 = [1] := by decide
      have second : circle.children 1 = [0] := by decide
      unfold descendantsWithin
      rw [first, second]
      simp [ih]
  exact (around depth).1

end TreeQuery.Tree
