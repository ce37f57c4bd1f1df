import TreeQuery.Pattern.Basic
import TreeQuery.Proofs.Selector.Chains
import TreeQuery.Proofs.Selector.Relation
import TreeQuery.Proofs.Selector.Search

/-!
# The meaning of combinators

A selector that ends with a combinator and a compound finds those elements of the compound to which
an element found by what stands before the combinator is related.  Main statement: `select_join`.
-/

namespace TreeQuery.Selector
open TreeQuery.Tree

section

variable [PatternEngine] {tree : Tree} {root : NodeId}

/-- A search for two conditions with a combinator between them keeps what both searches together
find. -/
lemma mem_select_combine (wf : WellFormed tree) {before here : Condition} {k : Combinator}
    {id : NodeId} :
    id ∈ select tree (before.combine k here) root ↔
      id ∈ select tree here root ∧ ∃ left ∈ select tree before root, k.Relates tree left id := by
  have holds : (before.combine k here).holds tree root id ↔
      here.holds tree root id ∧ ∃ left ∈ k.related tree root id, before.holds tree root left := by
    simp only [Condition.combine, Condition.holds, Condition.holdsAll, Bool.and_true,
      Bool.and_eq_true, List.any_eq_true]
  rw [mem_select wf, mem_select wf, holds, and_assoc]
  refine and_congr_right fun member => and_congr_right fun _ => exists_congr fun left => ?_
  have inside : tree.InSubtree root id :=
    inSubtree_iff.2 ((wf.mem_documentOrder.1 member).imp_right And.left)
  rw [mem_related_iff wf inside, mem_select wf, wf.mem_documentOrder, inSubtree_iff]
  constructor
  · intro h
    obtain ⟨⟨related, rfl | below⟩, met⟩ := h
    · exact ⟨⟨.inl rfl, met⟩, related⟩
    · exact ⟨⟨.inr ⟨below, isElement_of_relates wf below related⟩, met⟩, related⟩
  · intro h
    obtain ⟨⟨place, met⟩, related⟩ := h
    exact ⟨⟨related, place.imp_right And.left⟩, met⟩

/-- Selecting by a text is selecting by the condition that it parses as. -/
lemma selectText_of_parse {selector : Text} {condition : Condition}
    (h : parse selector = .ok condition) :
    selectText tree selector root = .ok (select tree condition root) := by
  unfold selectText
  rw [h]
  rfl

/-- A selector `left` without commas, a combinator and a compound `right`, written one after the
other, make a selector.  In document order it finds those elements which `right` finds and to which
an element that `left` finds is related. -/
theorem select_join (wf : WellFormed tree) (root : NodeId) (k : Combinator)
    {left right text : Text} {tokens : List Token} {offset : Nat}
    (read : (Cursor.start 0 left).tokens.1 = .ok tokens)
    (alone : ∀ o, .separator .comma o ∉ tokens) (parsed : (parse left).isOk)
    (read' : (Cursor.start 0 right).tokens.1 = .ok [.compound text offset])
    (parsed' : (parse right).isOk) :
    ∃ outer inner both,
      selectText tree left root = .ok outer ∧
      selectText tree right root = .ok inner ∧
      selectText tree (left ++ (Separator.combinator k).toChar :: right) root = .ok both ∧
      (∀ id, id ∈ both ↔ id ∈ inner ∧ ∃ related ∈ outer, k.Relates tree related id) ∧
      both.Sublist (tree.documentOrder root) := by
  obtain ⟨before, before_eq⟩ := isOk_iff.1 parsed
  obtain ⟨here, here_eq⟩ := isOk_iff.1 parsed'
  have joined := parse_join k read alone read' before_eq here_eq
  refine ⟨_, _, _, selectText_of_parse before_eq, selectText_of_parse here_eq,
    selectText_of_parse joined, fun id => mem_select_combine wf, ?_⟩
  rw [select_eq_filter_documentOrder wf]
  exact List.filter_sublist

end

attribute [local instance] Pattern.engine

/-- Only the second item follows an item of a list, though no element has a class. -/
theorem select_later_items :
    WellFormed twoItems ∧
    (Cursor.start 0 "ul > li".toList).tokens.1 = .ok [.compound "ul".toList 0,
      .separator (.combinator .child) 3, .compound "li".toList 5] ∧
    (Cursor.start 0 " :not([class])".toList).tokens.1 = .ok [.compound ":not([class])".toList 1] ∧
    selectText twoItems "ul > li".toList 0 = .ok [2, 4] ∧
    selectText twoItems " :not([class])".toList 0 = .ok [0, 1, 2, 4, 5] ∧
    selectText twoItems "ul > li~ :not([class])".toList 0 = .ok [4] ∧
    (∀ id, id ∈ [4] ↔ id ∈ [0, 1, 2, 4, 5] ∧
      ∃ related ∈ [2, 4], Combinator.subsequentSibling.Relates twoItems related id) ∧
    [4].Sublist (twoItems.documentOrder 0) := by
  have read : (Cursor.start 0 "ul > li".toList).tokens.1 = .ok [.compound "ul".toList 0,
      .separator (.combinator .child) 3, .compound "li".toList 5] := by decide +kernel
  have read' : (Cursor.start 0 " :not([class])".toList).tokens.1 =
      .ok [.compound ":not([class])".toList 1] := by decide +kernel
  have items : selectText twoItems "ul > li".toList 0 = .ok [2, 4] := by decide +kernel
  have all : selectText twoItems " :not([class])".toList 0 = .ok [0, 1, 2, 4, 5] := by
    decide +kernel
  have later : selectText twoItems "ul > li~ :not([class])".toList 0 = .ok [4] := by decide +kernel
  obtain ⟨_, _, _, outer, inner, both, found, order⟩ :=
    select_join wellFormed_twoItems 0 .subsequentSibling read (by simp) (by decide +kernel) read'
      (by decide +kernel)
  cases items.symm.trans outer
  cases all.symm.trans inner
  cases later.symm.trans both
  exact ⟨wellFormed_twoItems, read, read', items, all, later, found, order⟩

end TreeQuery.Selector
