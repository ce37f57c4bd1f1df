import Mathlib.Data.List.Count
import TreeQuery.Pattern.Basic
import TreeQuery.Proofs.Tree.Relatives
import TreeQuery.Selector.Matching

/-!
# Positions among siblings

An element has one place among the element children of its parent, and everything that is asked
about its siblings goes by that place: its index, what comes before it, and its positions from the
front and from the end.  Positions are also counted among the siblings of one tag.  None of this
needs more than links that are in order, so it holds in every tree that is built.  Main statement:
`Built.positions_agree`.
-/

namespace TreeQuery.Tree
open TreeQuery.Selector

variable {tree : Tree} {parent id : NodeId} {before after : List NodeId}

/-! ### One place -/

/-- A list that has an element at some index is what comes before, the element and what comes after.
-/
lemma split_of_getElem? {l : List NodeId} {i : Nat} (h : l[i]? = some id) :
    l = l.take i ++ id :: l.drop (i + 1) ∧ (l.take i).length = i := by
  obtain ⟨inside, rfl⟩ := List.getElem?_eq_some_iff.1 h
  constructor
  · rw [List.getElem_cons_drop, List.take_append_drop]
  · exact List.length_take_of_le (Nat.le_of_lt inside)

/-- Without repetitions an element stands neither before nor after itself. -/
lemma not_mem_of_nodup (nodup : (before ++ id :: after).Nodup) : id ∉ before ∧ id ∉ after := by
  obtain ⟨-, right, apart⟩ := List.nodup_append.1 nodup
  constructor
  · intro member
    exact apart id member id (.head _) rfl
  · exact (List.nodup_cons.1 right).1

/-- The index of a sibling is how many siblings stand before it. -/
lemma Linked.siblingIndex_eq (linked : Linked tree)
    (h : tree.elementChildren parent = before ++ id :: after) :
    tree.siblingIndex id = before.length := by
  rw [siblingIndex, linked.idxOf?_siblings h]
  rfl

/-! ### Counted siblings -/

/-- The element children of a node that count for the position of one of them: all of them, or those
of its tag. -/
def counted (tree : Tree) (parent id : NodeId) (ofType : Bool) : List NodeId :=
  if ofType then (tree.elementChildren parent).filter fun sibling => tree.tag sibling == tree.tag id
  else tree.elementChildren parent

/-- The siblings that are counted are those of the same tag, or all of them. -/
lemma counted_eq_filter (tree : Tree) (parent id : NodeId) (ofType : Bool) :
    tree.counted parent id ofType =
      (tree.elementChildren parent).filter fun sibling =>
        !ofType || tree.tag sibling == tree.tag id := by
  cases ofType with
  | true => rfl
  | false => exact (List.filter_eq_self.2 fun _ _ => rfl).symm

/-- The siblings that are counted keep their order. -/
lemma counted_sublist (tree : Tree) (parent id : NodeId) (ofType : Bool) :
    (tree.counted parent id ofType).Sublist (tree.elementChildren parent) := by
  rw [counted_eq_filter]
  exact List.filter_sublist

/-- No sibling is counted twice. -/
lemma Linked.nodup_counted (linked : Linked tree) (parent id : NodeId) (ofType : Bool) :
    (tree.counted parent id ofType).Nodup :=
  (linked.nodup_elementChildren parent).sublist (counted_sublist tree parent id ofType)

/-- An element counts for its own position. -/
lemma Linked.mem_counted (linked : Linked tree) (isElement : tree.isElement id)
    (link : tree.ParentOf parent id) (ofType : Bool) : id ∈ tree.counted parent id ofType := by
  rw [counted_eq_filter]
  apply List.mem_filter.2
  exact ⟨linked.mem_elementChildren.2 ⟨link, isElement⟩, by simp⟩

/-! ### Positions -/

/-- The place of an element, counted from the front or from the end. -/
def placeFrom (before after : List NodeId) (fromEnd : Bool) : Nat :=
  if fromEnd then after.length else before.length

/-- The position is one more than the place, as long as 32 bits hold it. -/
lemma Linked.position?_eq (linked : Linked tree) {counting : Counting}
    (link : tree.ParentOf parent id) (inner : parent ≠ documentId)
    (h : tree.counted parent id counting.ofType = before ++ id :: after) :
    counting.position? tree id =
      if placeFrom before after counting.fromEnd + 1 < 2147483648 then
        some (Int32.ofNat (placeFrom before after counting.fromEnd + 1))
      else none := by
  have nodup := linked.nodup_counted parent id counting.ofType
  rw [h] at nodup
  obtain ⟨first, last⟩ := not_mem_of_nodup nodup
  have notDocument : tree.isDocument parent = false := by
    apply beq_eq_false_iff_ne.2
    exact mt linked.document_iff.1 inner
  have place : (if counting.fromEnd then (before ++ id :: after).reverse
      else before ++ id :: after).idxOf? id = some (placeFrom before after counting.fromEnd) := by
    cases counting.fromEnd with
    | false => exact idxOf?_append_cons first
    | true =>
      have reversed : (before ++ id :: after).reverse = after.reverse ++ id :: before.reverse := by
        simp
      rw [if_pos rfl, reversed, idxOf?_append_cons (mt List.mem_reverse.1 last),
        List.length_reverse]
      rfl
  unfold Counting.position?
  rw [linked.parent?_eq_some_iff.2 link]
  dsimp only
  rw [notDocument, if_neg Bool.false_ne_true, ← counted_eq_filter, h, place]
  rfl

/-- Positions are counted from one. -/
lemma eq_some_one_iff {place : Nat} :
    (if place + 1 < 2147483648 then some (Int32.ofNat (place + 1)) else none) = some 1 ↔
      place = 0 := by
  constructor
  · intro h
    split at h
    · rename_i fits
      have one := congrArg Int32.toInt (Option.some.inj h)
      rw [Int32.toInt_ofNat_of_lt fits, Int32.toInt_one] at one
      omega
    · cases h
  · rintro rfl
    rfl

/-- As long as there are few enough siblings, the position is an integer one greater than the place.
-/
lemma Linked.exists_position? (linked : Linked tree) (counting : Counting)
    (link : tree.ParentOf parent id) (inner : parent ≠ documentId)
    (few : (tree.elementChildren parent).length < 2147483648)
    (h : tree.counted parent id counting.ofType = before ++ id :: after) :
    ∃ position, counting.position? tree id = some position ∧
      position.toInt = placeFrom before after counting.fromEnd + 1 := by
  have fewer := (counted_sublist tree parent id counting.ofType).length_le
  rw [h, List.length_append, List.length_cons] at fewer
  have fits : placeFrom before after counting.fromEnd + 1 < 2147483648 := by
    unfold placeFrom
    split <;> omega
  refine ⟨_, (linked.position?_eq link inner h).trans (if_pos fits), ?_⟩
  exact Int32.toInt_ofNat_of_lt fits

/-- An element is the only one that counts if it is both the first and the last one. -/
lemma Linked.only_iff (linked : Linked tree) {ofType : Bool} (link : tree.ParentOf parent id)
    (inner : parent ≠ documentId) (h : tree.counted parent id ofType = before ++ id :: after) :
    (Placement.only ofType).holds tree id ↔ (tree.counted parent id ofType).length = 1 := by
  have one (fromEnd : Bool) : Counting.position? tree ⟨ofType, fromEnd⟩ id = some 1 ↔
      placeFrom before after fromEnd = 0 := by
    rw [linked.position?_eq link inner h]
    exact eq_some_one_iff
  have first : Counting.position? tree ⟨ofType, false⟩ id = some 1 ↔ before.length = 0 := one false
  have last : Counting.position? tree ⟨ofType, true⟩ id = some 1 ↔ after.length = 0 := one true
  rw [Placement.holds, Bool.and_eq_true, beq_iff_eq, beq_iff_eq, first, last, h, List.length_append,
    List.length_cons]
  omega

/-- Without a parent and right under the document there are no positions. -/
lemma Linked.position?_eq_none (linked : Linked tree)
    (top : tree.parentLink? id = none ∨ tree.parentLink? id = some documentId)
    (counting : Counting) : counting.position? tree id = none := by
  unfold Counting.position?
  rcases top with parentless | topmost
  · have none : tree.parent? id = none := by
      rw [parent?, show (tree.get? id).bind (·.parent) = none from parentless]
      rfl
    rw [none]
  · have isDocument : tree.isDocument documentId = true :=
      beq_iff_eq.2 (linked.document_iff.2 rfl)
    rw [linked.parent?_eq_some_iff.2 topmost]
    exact if_pos isDocument

/-- What has no position is placed nowhere. -/
lemma not_holds_of_position? {placement : Placement}
    (none : ∀ counting : Counting, counting.position? tree id = none) :
    ¬ placement.holds tree id := by
  cases placement <;> simp [Placement.holds, none]

section

variable [PatternEngine]

/-- An element stands at exactly one index among the element children of its parent, whichever that
is.  Its index among its siblings is that index, and the siblings before it are the ones that stand
before it there, the nearest one first.  Below an element it has a position among all siblings and
one among those of its tag, from the front and from the end, which go by its index in the same way;
it is the only one if there is no other one that counts.  At the top it has no position. -/
theorem Built.positions_agree (built : Built tree) (isElement : tree.isElement id) :
    (∀ parent, tree.parentLink? id = some parent →
      (tree.elementChildren parent).count id = 1 ∧
      (∀ i : Nat, (tree.elementChildren parent)[i]? = some id →
        tree.siblingIndex id = i ∧
        tree.previousSiblings id = ((tree.elementChildren parent).take i).reverse ∧
        tree.previousSibling? id = (tree.previousSiblings id).head?) ∧
      (parent ≠ documentId → ∀ ofType,
        (tree.counted parent id ofType).count id = 1 ∧
        (∀ i : Nat, (tree.counted parent id ofType)[i]? = some id →
          (tree.elementChildren parent).length < 2147483648 →
          ∃ forward backward,
            Counting.position? tree ⟨ofType, false⟩ id = some forward ∧
            Counting.position? tree ⟨ofType, true⟩ id = some backward ∧
            forward.toInt = i + 1 ∧
            backward.toInt = (tree.counted parent id ofType).length - i ∧
            forward.toInt + backward.toInt = (tree.counted parent id ofType).length + 1) ∧
        ∀ root, (Condition.placed (.only ofType)).holds tree root id ↔
          (tree.counted parent id ofType).length = 1)) ∧
    (tree.parentLink? id = none ∨ tree.parentLink? id = some documentId →
      ∀ root counting formula placement,
        ¬ (Condition.nth counting formula).holds tree root id ∧
        ¬ (Condition.placed placement).holds tree root id) := by
  have linked := built.linked
  constructor
  · intro parent link
    have member := linked.mem_elementChildren.2 ⟨link, isElement⟩
    refine ⟨List.count_eq_one_of_mem (linked.nodup_elementChildren parent) member, ?_, ?_⟩
    · intro i stands
      obtain ⟨split, length⟩ := split_of_getElem? stands
      rw [linked.siblingIndex_eq split, linked.previousSiblings_eq split,
        linked.previousSibling?_eq split, List.head?_reverse]
      exact ⟨length, rfl, rfl⟩
    · intro inner ofType
      have counts := linked.mem_counted isElement link ofType
      refine ⟨List.count_eq_one_of_mem (linked.nodup_counted parent id ofType) counts, ?_, ?_⟩
      · intro i stands few
        obtain ⟨split, length⟩ := split_of_getElem? stands
        obtain ⟨forward, found, front⟩ :=
          linked.exists_position? ⟨ofType, false⟩ link inner few split
        obtain ⟨backward, found', back⟩ :=
          linked.exists_position? ⟨ofType, true⟩ link inner few split
        have total := congrArg List.length split
        rw [List.length_append, List.length_cons, length] at total
        refine ⟨forward, backward, found, found', ?_⟩
        simp only [placeFrom, if_true, Bool.false_eq_true, if_false] at front back
        omega
      · intro root
        obtain ⟨before, after, split⟩ := List.append_of_mem counts
        exact linked.only_iff link inner split
  · intro top root counting formula placement
    have none := linked.position?_eq_none top
    refine ⟨?_, not_holds_of_position? none⟩
    simp [Condition.holds, none]

end

attribute [local instance] Pattern.engine

/-- Two paragraphs and two bold texts in a division, with a text between the pairs. -/
def pairs : Tree :=
  run [.appendElement 0 "div".toList [], .appendElement 1 "p".toList [],
    .appendElement 1 "b".toList [], .appendText 1 "x".toList, .appendElement 1 "P".toList [],
    .appendElement 1 "b".toList []]

/-- The second paragraph comes third of four, and second of two of its tag.  The division is the
first one of the document and yet has no position. -/
theorem positions_agree_pairs :
    Built pairs ∧ pairs.isElement 5 ∧ pairs.parentLink? 5 = some 1 ∧ pairs.siblingIndex 5 = 2 ∧
    pairs.previousSiblings 5 = [3, 2] ∧ pairs.previousSibling? 5 = some 3 ∧
    (∃ forward backward, Counting.position? pairs ⟨true, false⟩ 5 = some forward ∧
      Counting.position? pairs ⟨true, true⟩ 5 = some backward ∧
      forward.toInt = 2 ∧ backward.toInt = 1) ∧
    ∀ root, ¬ (Condition.placed (.first false)).holds pairs root 1 := by
  have built : Built pairs := built_run _
  have paragraph : pairs.isElement 5 := by decide
  have link : pairs.parentLink? 5 = some 1 := by decide
  have division : pairs.isElement 1 := by decide
  obtain ⟨-, beside, positions⟩ := (built.positions_agree paragraph).1 1 link
  obtain ⟨index, earlier, previous⟩ := beside 2 (by decide)
  obtain ⟨-, typed, -⟩ := positions (by decide) true
  obtain ⟨forward, backward, found, found', front, back, -⟩ := typed 1 (by decide) (by decide)
  have before : pairs.previousSiblings 5 = [3, 2] := earlier.trans (by decide)
  refine ⟨built, paragraph, link, index, before, ?_, ?_, ?_⟩
  · rw [previous, before]
    rfl
  · have two : pairs.counted 1 5 true = [2, 5] := by decide
    rw [two] at back
    exact ⟨forward, backward, found, found', front, back⟩
  · intro root
    exact ((built.positions_agree division).2 (.inr (by decide)) root ⟨false, false⟩ ⟨0, 1⟩
      (.first false)).2

end TreeQuery.Tree
