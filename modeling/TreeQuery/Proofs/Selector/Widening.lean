import TreeQuery.Pattern.Basic
import TreeQuery.Proofs.Selector.Relation
import TreeQuery.Proofs.Selector.Search

/-!
# Larger searches

From a root further up a combinator leads to more, and to nothing less; so an element that meets a
condition in a search still meets it in a search of a larger subtree, if the condition denies
nothing and does not ask what the root is.  In the argument of `has` it may do both, as that is a
search of its own.  Main statement: `select_sublist_of_inSubtree`.
-/

namespace TreeQuery.Selector
open TreeQuery.Tree

variable {tree : Tree} {outer inner id : NodeId}

/-- What a combinator leads to in a search it leads to in every larger one. -/
lemma related_subset (wf : WellFormed tree) (wider : tree.InSubtree outer inner)
    (inside : tree.InSubtree inner id) (combinator : Combinator) :
    combinator.related tree inner id ⊆ combinator.related tree outer id := by
  intro other member
  rw [mem_related_iff wf inside] at member
  rw [mem_related_iff wf (wider.trans inside)]
  exact ⟨member.1, wider.trans member.2⟩

section

variable [PatternEngine]

namespace Condition

mutual

/-- Whether `not`, `scope` and `root` occur nowhere in a condition but in arguments of `has`. -/
def affirmative : Condition → Bool
  | .not _ | .scope | .root => false
  | .all conditions | .any conditions => affirmativeList conditions
  | .related _ inner => inner.affirmative
  | _ => true

/-- Whether all of the conditions are affirmative. -/
def affirmativeList : List Condition → Bool
  | [] => true
  | condition :: more => condition.affirmative && affirmativeList more

end

end Condition

mutual

/-- An affirmative condition that is met in a search is met in every larger one. -/
theorem holds_of_inSubtree (wf : WellFormed tree) (wider : tree.InSubtree outer inner)
    {id : NodeId} (inside : tree.InSubtree inner id) :
    ∀ condition : Condition, condition.affirmative → condition.holds tree inner id →
      condition.holds tree outer id
  | .all conditions, affirmative, met => by
    simp only [Condition.holds] at met ⊢
    exact (holdsList_of_inSubtree wf wider inside conditions affirmative).1 met
  | .any conditions, affirmative, met => by
    simp only [Condition.holds] at met ⊢
    exact (holdsList_of_inSubtree wf wider inside conditions affirmative).2 met
  | .related combinator left, affirmative, met => by
    simp only [Condition.holds, List.any_eq_true] at met ⊢
    obtain ⟨other, member, met⟩ := met
    have lower := ((mem_related_iff wf inside).1 member).2
    exact ⟨other, related_subset wf wider inside combinator member,
      holds_of_inSubtree wf wider lower left affirmative met⟩
  | .universal none, _, _ => rfl
  -- The root of the search does not occur in any of the others.
  | .universal (some _), _, met | .tag _, _, met | .id _, _, met
  | .hasClass _, _, met | .hasAttribute _, _, met | .attributeStarting _, _, met
  | .attributeValue .., _, met | .attributeMatches .., _, met | .index .., _, met
  | .nth .., _, met | .placed _, _, met | .empty, _, met | .contains .., _, met
  | .containsData _, _, met | .matchesPattern .., _, met | .has _, _, met => by
    simpa only [Condition.holds] using met

/-- Several affirmative conditions hold from a wider root too, all of them as well as any of them.
-/
theorem holdsList_of_inSubtree (wf : WellFormed tree) (wider : tree.InSubtree outer inner)
    {id : NodeId} (inside : tree.InSubtree inner id) :
    ∀ conditions : List Condition, Condition.affirmativeList conditions →
      (Condition.holdsAll tree inner id conditions → Condition.holdsAll tree outer id conditions) ∧
      (Condition.holdsAny tree inner id conditions → Condition.holdsAny tree outer id conditions)
  | [], _ => ⟨fun met => met, fun met => met⟩
  | condition :: more, affirmative => by
    obtain ⟨first, others⟩ := Bool.and_eq_true_iff.1 affirmative
    have first := holds_of_inSubtree wf wider inside condition first
    have others := holdsList_of_inSubtree wf wider inside more others
    simp only [Condition.holdsAll, Condition.holdsAny, Bool.and_eq_true, Bool.or_eq_true]
    exact ⟨And.imp first others.1, Or.imp first others.2⟩

end

/-- What a search for an affirmative condition finds is found, in the same order, by a search from
every root above. -/
theorem select_sublist_of_inSubtree (wf : WellFormed tree) (wider : tree.InSubtree outer inner)
    (like : tree.isElementLike inner) (condition : Condition)
    (affirmative : condition.affirmative) :
    (select tree condition inner).Sublist (select tree condition outer) := by
  have stays : ∀ id ∈ tree.documentOrder inner, condition.holds tree inner id =
      (condition.holds tree inner id && condition.holds tree outer id) := by
    intro id member
    have inside : tree.InSubtree inner id :=
      inSubtree_iff.2 ((wf.mem_documentOrder.1 member).imp_right And.left)
    apply Bool.eq_iff_iff.2
    rw [Bool.and_eq_true]
    exact (and_iff_left_of_imp
      (holds_of_inSubtree wf wider inside condition affirmative)).symm
  rw [select_eq_filter_documentOrder wf, select_eq_filter_documentOrder wf]
  calc (tree.documentOrder inner).filter (condition.holds tree inner)
      = (tree.documentOrder inner).filter fun id =>
          condition.holds tree inner id && condition.holds tree outer id := List.filter_congr stays
    List.Sublist _ ((tree.documentOrder inner).filter (condition.holds tree outer)) :=
      List.monotone_filter_right _ fun _ both => (Bool.and_eq_true_iff.1 both).2
    List.Sublist _ ((tree.documentOrder outer).filter (condition.holds tree outer)) :=
      (wf.documentOrder_sublist wider like).filter _

end

attribute [local instance] Pattern.engine

/-- What is found in a list by a search from the document too: a condition on what is below may deny
something. -/
theorem select_sublist_list :
    WellFormed twoItems ∧ twoItems.InSubtree 0 1 ∧ twoItems.isElementLike 1 ∧
    (select twoItems (.any [.has (.not .scope), .related .subsequentSibling (.tag "li".toList)])
      1).Sublist
    (select twoItems (.any [.has (.not .scope), .related .subsequentSibling (.tag "li".toList)])
      0) := by
  have link : twoItems.ParentOf 0 1 := by
    show twoItems.parentLink? 1 = some 0
    decide
  have like : twoItems.isElementLike 1 := by decide
  exact ⟨wellFormed_twoItems, .single link, like,
    select_sublist_of_inSubtree wellFormed_twoItems (.single link) like _ rfl⟩

end TreeQuery.Selector
