import TreeQuery.Pattern.Basic
import TreeQuery.Proofs.Selector.Relation
import TreeQuery.Proofs.Selector.Search
import TreeQuery.Proofs.Tree.Agreement

/-!
# Searches stay below their root

Whether an element meets a condition in a search depends on the subtree of the root only, and on the
position of the root among its siblings if the condition asks for positions.  Main statement:
`select_congr_of_sameSubtree`, about two trees that share a subtree and nothing else.
-/

namespace TreeQuery.Selector
open TreeQuery.Tree

/-- An element has the same index and the same four positions among its siblings in two trees. -/
structure SamePosition (left right : Tree) (id : NodeId) : Prop where
  siblingIndex : left.siblingIndex id = right.siblingIndex id
  position? : ∀ counting : Counting, counting.position? left id = counting.position? right id

variable {left right : Tree} {root scope id : NodeId}

/-! ### Parts of conditions -/

/-- Below the top of a shared subtree all positions are the same. -/
lemma samePosition_of_ancestor (wl : WellFormed left) (wr : WellFormed right)
    (same : SameSubtree left right root) (below : left.Ancestor root id) :
    SamePosition left right id where
  siblingIndex := by
    rw [siblingIndex, siblingIndex, same.siblings_eq wl wr below]
  position? counting := by
    obtain ⟨parent, inside, link, link'⟩ := same.parent?_eq wl wr below
    have sameTag (sibling : NodeId) (member : sibling ∈ left.elementChildren parent) :
        (!counting.ofType || left.tag sibling == left.tag id) =
          (!counting.ofType || right.tag sibling == right.tag id) := by
      have lower := inside.tail (wl.mem_elementChildren.1 member).1
      rw [(same.narrow lower).tag_eq, (same.narrow below.to_reflTransGen).tag_eq]
    unfold Counting.position?
    rw [wl.parent?_eq_some_iff.2 link, wr.parent?_eq_some_iff.2 link']
    simp only
    rw [← (same.narrow inside).isDocument_eq, ← (same.narrow inside).elementChildren_eq wl,
      List.filter_congr sameTag]

/-- Positions are the same all over a shared subtree if they are so at its top. -/
lemma samePosition_of_inSubtree (wl : WellFormed left) (wr : WellFormed right)
    (same : SameSubtree left right root) (top : SamePosition left right root)
    (inside : left.InSubtree root id) : SamePosition left right id := by
  rcases inSubtree_iff.1 inside with rfl | below
  · exact top
  · exact samePosition_of_ancestor wl wr same below

/-- Elements with the same positions are placed the same. -/
lemma placement_congr (same : SamePosition left right id) (placement : Placement) :
    placement.holds left id = placement.holds right id := by
  cases placement <;> simp only [Placement.holds, same.position?]

/-- In the same subtree the texts are the same. -/
lemma textPart_congr (wl : WellFormed left) (wr : WellFormed right)
    (same : SameSubtree left right id) (part : TextPart) : part.of left id = part.of right id := by
  cases part with
  | whole => exact same.text_eq wl wr
  | own => exact same.ownText_eq wl

/-- In the same subtree the topmost element is the same. -/
lemma topmost?_congr (wl : WellFormed left) (same : SameSubtree left right scope) :
    topmost? left scope = topmost? right scope := by
  unfold topmost?
  rw [same.isDocument_eq, same.elementChildren_eq wl]

/-- What a combinator leads to from below the root of a search is the same in both trees. -/
lemma related_congr (wl : WellFormed left) (wr : WellFormed right)
    (same : SameSubtree left right scope) (inside : left.InSubtree scope id)
    (combinator : Combinator) :
    combinator.related left scope id = combinator.related right scope id := by
  unfold Combinator.related
  split
  · rfl
  · rename_i differ
    have below := (inSubtree_iff.1 inside).resolve_left differ
    have siblings := same.siblings_eq wl wr below
    cases combinator with
    | descendant => exact same.ancestorsWithin_eq wl wr below
    | child =>
      obtain ⟨parent, -, link, link'⟩ := same.parent?_eq wl wr below
      simp only [wl.parent?_eq_some_iff.2 link, wr.parent?_eq_some_iff.2 link']
    | nextSibling => simp only [previousSibling?, siblings]
    | subsequentSibling => simp only [previousSiblings, siblings]

/-! ### Conditions -/

/-- Positions count for a condition only if it asks for them. -/
def PositionsAgree (left right : Tree) (scope : NodeId) (positional : Bool) : Prop :=
  positional → ∀ id, left.InSubtree scope id → SamePosition left right id

/-- Positions that agree for two conditions agree for the first. -/
lemma PositionsAgree.of_or_left {a b : Bool} (h : PositionsAgree left right scope (a || b)) :
    PositionsAgree left right scope a :=
  fun ha => h (by simp [ha])

/-- Positions that agree for two conditions agree for the second. -/
lemma PositionsAgree.of_or_right {a b : Bool} (h : PositionsAgree left right scope (a || b)) :
    PositionsAgree left right scope b :=
  fun hb => h (by simp [hb])

section

variable [PatternEngine]

namespace Condition

mutual

/-- Whether a condition asks anywhere for a position among siblings. -/
def positional : Condition → Bool
  | .index .. | .nth .. | .placed _ => true
  | .has inner | .not inner | .related _ inner => inner.positional
  | .all conditions | .any conditions => positionalList conditions
  | _ => false

/-- Whether one of the conditions asks for a position. -/
def positionalList : List Condition → Bool
  | [] => false
  | condition :: more => condition.positional || positionalList more

end

end Condition

mutual

/-- A condition means the same in both trees, whatever the root of the search in the shared
subtree: `has` makes a root of every element. -/
theorem holds_congr (wl : WellFormed left) (wr : WellFormed right) {scope id : NodeId}
    (same : SameSubtree left right scope) (inside : left.InSubtree scope id) :
    ∀ condition : Condition, PositionsAgree left right scope condition.positional →
      condition.holds left scope id = condition.holds right scope id
  | .universal none, _ => rfl
  | .scope, _ => rfl
  | .universal (some name), _ | .tag name, _ => by
    simp only [Condition.holds, (same.narrow inside).tag_eq]
  | .id value, _ => by
    simp only [Condition.holds, idAttribute?, (same.narrow inside).attribute?_eq]
  | .hasClass name, _ => by
    simp only [Condition.holds, hasClass, (same.narrow inside).element?_eq]
  | .hasAttribute name, _ | .attributeValue name _ _, _ | .attributeMatches name _, _ => by
    simp only [Condition.holds, (same.narrow inside).attribute?_eq]
  | .attributeStarting start, _ => by
    simp only [Condition.holds, attributeNames, (same.narrow inside).element?_eq]
  | .index order bound, positions => by
    simp only [Condition.holds, (positions rfl id inside).siblingIndex]
  | .nth counting formula, positions => by
    simp only [Condition.holds, (positions rfl id inside).position?]
  | .placed placement, positions => by
    simp only [Condition.holds, placement_congr (positions rfl id inside)]
  | .empty, _ => by
    simp only [Condition.holds, (same.narrow inside).hasContent_eq wl]
  | .root, _ => by
    simp only [Condition.holds, topmost?_congr wl same]
  | .contains part text, _ | .matchesPattern part _, _ => by
    simp only [Condition.holds, textPart_congr wl wr (same.narrow inside)]
  | .containsData text, _ => by
    simp only [Condition.holds, (same.narrow inside).data_eq wl wr]
  | .has inner, positions => by
    -- The inner search has `id` as its root, so the shared subtree is narrowed to that of `id`.
    simp only [Condition.holds, ← (same.narrow inside).elementsBelow_eq wl wr]
    refine any_congr_of_mem fun below member => ?_
    rw [wl.elementsBelow_eq, List.mem_filter] at member
    have lower := (wl.mem_descendants.1 member.1).to_reflTransGen
    exact holds_congr wl wr (same.narrow inside) lower inner
      fun asks other deeper => positions asks other (inside.trans deeper)
  | .not inner, positions => by
    simp only [Condition.holds, holds_congr wl wr same inside inner positions]
  | .all conditions, positions => by
    simp only [Condition.holds, (holdsList_congr wl wr same inside conditions positions).1]
  | .any conditions, positions => by
    simp only [Condition.holds, (holdsList_congr wl wr same inside conditions positions).2]
  | .related combinator other, positions => by
    simp only [Condition.holds, ← related_congr wl wr same inside]
    refine any_congr_of_mem fun relative member => ?_
    -- A combinator does not lead out of the subtree, so the shared subtree stays as it is.
    exact holds_congr wl wr same ((mem_related_iff wl inside).1 member).2 other positions

/-- Several conditions hold the same in the same subtree, all of them as well as any of them. -/
theorem holdsList_congr (wl : WellFormed left) (wr : WellFormed right) {scope id : NodeId}
    (same : SameSubtree left right scope) (inside : left.InSubtree scope id) :
    ∀ conditions : List Condition,
      PositionsAgree left right scope (Condition.positionalList conditions) →
      Condition.holdsAll left scope id conditions = Condition.holdsAll right scope id conditions ∧
      Condition.holdsAny left scope id conditions = Condition.holdsAny right scope id conditions
  | [], _ => ⟨rfl, rfl⟩
  | condition :: more, positions => by
    have first := holds_congr wl wr same inside condition (.of_or_left positions)
    have others := holdsList_congr wl wr same inside more (.of_or_right positions)
    simp only [Condition.holdsAll, Condition.holdsAny, first, others, and_self]

end

/-- Two trees that share a subtree give a search in it the same results, whatever else they hold:
for a condition without positions, and for any condition if the root has the same positions in both.
-/
theorem select_congr_of_sameSubtree (wl : WellFormed left) (wr : WellFormed right)
    (same : SameSubtree left right root) (condition : Condition)
    (positions : condition.positional = false ∨ SamePosition left right root) :
    (∀ id ∈ left.elementsFrom root,
      condition.holds left root id = condition.holds right root id) ∧
    select left condition root = select right condition root := by
  have agree : PositionsAgree left right root condition.positional := by
    intro asks id inside
    rcases positions with none | top
    · rw [none] at asks
      cases asks
    · exact samePosition_of_inSubtree wl wr same top inside
  have holds : ∀ id ∈ left.elementsFrom root,
      condition.holds left root id = condition.holds right root id := by
    intro id member
    rw [wl.elementsFrom_eq, wl.mem_documentOrder] at member
    exact holds_congr wl wr same (inSubtree_iff.2 (member.imp_right And.left)) condition agree
  refine ⟨holds, ?_⟩
  unfold select
  rw [← same.elementsFrom_eq wl wr]
  exact List.filter_congr holds

end

attribute [local instance] Pattern.engine

/-- The list of `twoItems` in a division. -/
def listInDivision : Tree :=
  run [.createElement "ul".toList, .appendElement 1 "li".toList [], .appendText 2 "a".toList,
    .appendElement 1 "li".toList [], .appendElement 0 "div".toList [], .appendChild 5 1]

/-- The division is above the list and yet does not count, although its number is greater. -/
theorem select_items_in_division :
    WellFormed twoItems ∧ WellFormed listInDivision ∧ SameSubtree twoItems listInDivision 1 ∧
    select twoItems (.related .descendant (.tag "ul".toList)) 1 =
      select listInDivision (.related .descendant (.tag "ul".toList)) 1 := by
  have rank : WellFormed listInDivision :=
    .of_rank (built_run _) (fun id => if id = 0 ∨ id = 5 then id / 5 else id + 1) (by decide)
      (by decide)
  have same : SameSubtree twoItems listInDivision 1 :=
    .of_list wellFormed_twoItems [1, 2, 3, 4] (by decide) (by decide)
  have found := select_congr_of_sameSubtree wellFormed_twoItems rank same
    (.related .descendant (.tag "ul".toList)) (.inl rfl)
  exact ⟨wellFormed_twoItems, rank, same, found.2⟩

end TreeQuery.Selector
