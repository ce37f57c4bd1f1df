import TreeQuery.Pattern.Basic
import TreeQuery.Proofs.Tree.DocumentOrder
import TreeQuery.Selector.Select

/-!
# Searches and document order

A search looks at every element of a subtree once, in document order, wherever the subtree is that
of a well-formed tree.  Main statement: `select_eq_filter_descendants`.
-/

namespace TreeQuery.Selector
open TreeQuery.Tree

section

variable [PatternEngine] {tree : Tree} {root : NodeId}

/-- A search keeps those elements of the document order that meet the condition. -/
lemma select_eq_filter_documentOrder (wf : WellFormed tree) (condition : Condition)
    (root : NodeId) :
    select tree condition root = (tree.documentOrder root).filter (condition.holds tree root) := by
  unfold select
  rw [wf.elementsFrom_eq]

/-- An element is selected if it stands in the subtree and meets the condition. -/
lemma mem_select (wf : WellFormed tree) {condition : Condition} {id : NodeId} :
    id ∈ select tree condition root ↔
      id ∈ tree.documentOrder root ∧ condition.holds tree root id := by
  rw [select_eq_filter_documentOrder wf, List.mem_filter]

/-- The walk that is left at the first element that meets the condition has found the first one of
all that the whole walk visits. -/
lemma firstVisited?_eq_find? (condition : Condition) (steps : Nat) (pending : List NodeId) :
    firstVisited? tree condition root steps pending =
      (tree.visit steps pending).find? (condition.holds tree root) := by
  induction steps generalizing pending with
  | zero => rfl
  | succ steps ih =>
    cases pending with
    | nil => rfl
    | cons id pending =>
      unfold firstVisited? Tree.visit
      rw [List.find?_cons]
      split <;> rename_i holds
      · rw [holds]
      · rw [Bool.not_eq_true] at holds
        rw [holds, ih]

/-- A search for one element finds the first of all that the whole search finds. -/
lemma selectFirst?_eq_head? (condition : Condition) (root : NodeId) :
    selectFirst? tree condition root = (select tree condition root).head? := by
  rw [selectFirst?, firstVisited?_eq_find?, select, List.head?_filter, Tree.elementsFrom]

/-- The walk of a search, its bound on steps never reached, is the recursion over all nodes below
the root with everything but elements left out; so each element of the subtree is looked at once
and no other node is. -/
theorem select_eq_filter_descendants (wf : WellFormed tree) (condition : Condition)
    (root : NodeId) :
    (∀ id, tree.descendants id =
      (tree.children id).flatMap fun child => child :: tree.descendants child) ∧
    (∀ steps ≥ tree.size,
      tree.visit steps [root] = root :: (tree.descendants root).filter tree.isElement ∧
      tree.visit steps (tree.elementChildren root) =
        (tree.descendants root).filter tree.isElement) ∧
    (tree.elementsFrom root).Nodup ∧
    (∀ id, id ∈ tree.elementsFrom root ↔
      id = root ∨ tree.Ancestor root id ∧ tree.isElement id) ∧
    select tree condition root =
      (root :: (tree.descendants root).filter tree.isElement).filter (condition.holds tree root) ∧
    (select tree condition root).Nodup ∧
    tree.elementsBelow root = (tree.descendants root).filter tree.isElement ∧
    selectFirst? tree condition root = (select tree condition root).head? := by
  refine ⟨wf.descendants_eq, ?_, ?_, ?_, ?_, ?_, wf.elementsBelow_eq root, ?_⟩
  · intro steps enough
    exact ⟨wf.visit_root root enough, wf.visit_elementChildren root enough⟩
  · rw [wf.elementsFrom_eq]
    exact wf.nodup_documentOrder root
  · intro id
    rw [wf.elementsFrom_eq]
    exact wf.mem_documentOrder
  · exact select_eq_filter_documentOrder wf condition root
  · rw [select_eq_filter_documentOrder wf]
    exact (wf.nodup_documentOrder root).filter _
  · exact selectFirst?_eq_head? condition root

end

attribute [local instance] Pattern.engine

/-- In a list of two items the search by tag keeps what meets the condition, which are the items. -/
theorem select_items :
    WellFormed twoItems ∧
    select twoItems (.tag "li".toList) 0 =
      (0 :: (twoItems.descendants 0).filter twoItems.isElement).filter
        ((Condition.tag "li".toList).holds twoItems 0) ∧
    select twoItems (.tag "li".toList) 0 = [2, 4] ∧
    selectFirst? twoItems (.tag "li".toList) 0 = some 2 := by
  have found := select_eq_filter_descendants wellFormed_twoItems (.tag "li".toList) 0
  have items : select twoItems (.tag "li".toList) 0 = [2, 4] := by decide +kernel
  obtain ⟨-, -, -, -, kept, -, -, first⟩ := found
  exact ⟨wellFormed_twoItems, kept, items, first.trans (congrArg List.head? items)⟩

end TreeQuery.Selector
