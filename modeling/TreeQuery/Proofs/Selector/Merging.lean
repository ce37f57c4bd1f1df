import Mathlib.Data.List.Perm.Basic
import TreeQuery.Pattern.Basic
import TreeQuery.Proofs.Selector.Search

/-!
# Searches from several roots

What searches from several roots find is merged so that each element stays where it is found first.
A first occurrence in a list is kept by leaving other elements out (`precedes_filter_iff`), by
leaving repetitions out (`precedes_eraseDups_iff`) and, up to the list it is in, by putting lists
together (`precedes_flatMap_iff`).  Main statement: `selectFromRoots_merges`.
-/

namespace TreeQuery.Selector
open TreeQuery.Tree

variable {l l' : List NodeId} {a b c : NodeId} {p : NodeId → Bool}

/-! ### First occurrences -/

/-- The first occurrence of one element in a list comes before that of another. -/
def Precedes (l : List NodeId) (a b : NodeId) : Prop := l.idxOf a < l.idxOf b

/-- Nothing comes first in an empty list. -/
lemma not_precedes_nil : ¬ Precedes [] a b := Nat.lt_irrefl _

/-- An element comes before another one if it stands at the front and the other one does not, or
else comes before it in what follows. -/
lemma precedes_cons_iff : Precedes (c :: l) a b ↔ c ≠ b ∧ (c = a ∨ Precedes l a b) := by
  unfold Precedes
  by_cases hb : c = b
  · subst hb
    simp
  by_cases ha : c = a
  · subst ha
    simp [List.idxOf_cons_ne l hb, hb]
  · simp [List.idxOf_cons_ne l ha, List.idxOf_cons_ne l hb, ha, hb]

/-- Where two lists are put together, what stands in the first comes before all that does not. -/
lemma precedes_append_iff : Precedes (l ++ l') a b ↔
    a ∈ l ∧ (b ∈ l → Precedes l a b) ∨ a ∉ l ∧ b ∉ l ∧ Precedes l' a b := by
  unfold Precedes
  rw [List.idxOf_append, List.idxOf_append]
  have inside {x : NodeId} (member : x ∈ l) : l.idxOf x < l.length :=
    List.idxOf_lt_length_iff.2 member
  by_cases ha : a ∈ l <;> by_cases hb : b ∈ l
  · simp [ha, hb]
  · simpa [ha, hb] using Nat.lt_add_left _ (inside ha)
  · simpa [ha, hb] using Nat.le_add_left_of_le (Nat.le_of_lt (inside hb))
  · simp [ha, hb]

/-- Leaving elements out does not change the order of the others. -/
lemma precedes_filter_iff (ha : p a) (hb : p b) :
    Precedes (l.filter p) a b ↔ Precedes l a b := by
  induction l with
  | nil => rfl
  | cons c l ih =>
    by_cases hc : p c
    · rw [List.filter_cons_of_pos hc, precedes_cons_iff, precedes_cons_iff, ih]
    · have differ : c ≠ a := fun e => hc (e ▸ ha)
      have differ' : c ≠ b := fun e => hc (e ▸ hb)
      rw [List.filter_cons_of_neg hc, precedes_cons_iff, ih]
      simp [differ, differ']

/-- Leaving repetitions out goes on behind an element with a list that does not hold it. -/
lemma induction_eraseDups {P : List NodeId → Prop} (nil : P [])
    (cons : ∀ c l, P (l.filter fun x => !x == c) → P (c :: l)) (l : List NodeId) : P l := by
  induction size : l.length using Nat.strong_induction_on generalizing l with
  | _ n ih =>
    cases l with
    | nil => exact nil
    | cons c l =>
      have shorter : (l.filter fun x => !x == c).length < n :=
        size ▸ Nat.lt_succ_of_le (List.length_filter_le _ l)
      exact cons c l (ih _ shorter _ rfl)

/-- Leaving repetitions out does not change the order of first occurrences. -/
lemma precedes_eraseDups_iff : Precedes l.eraseDups a b ↔ Precedes l a b := by
  induction l using induction_eraseDups with
  | nil => rfl
  | cons c l ih =>
    rw [List.eraseDups_cons, precedes_cons_iff, precedes_cons_iff, ih]
    refine and_congr_right fun differ' => or_congr_right' fun differ => ?_
    exact precedes_filter_iff (by simpa using Ne.symm differ) (by simpa using Ne.symm differ')

/-- Without repetitions every element stands there once. -/
lemma nodup_eraseDups (l : List NodeId) : l.eraseDups.Nodup := by
  induction l using induction_eraseDups with
  | nil => exact List.nodup_nil
  | cons c l ih =>
    rw [List.eraseDups_cons]
    refine List.nodup_cons.2 ⟨fun member => ?_, ih⟩
    have kept := (List.mem_filter.1 (List.mem_eraseDups.1 member)).2
    simp at kept

/-- Where nothing is repeated nothing is left out. -/
lemma eraseDups_of_nodup (nodup : l.Nodup) : l.eraseDups = l := by
  induction l with
  | nil => rfl
  | cons c l ih =>
    obtain ⟨new, rest⟩ := List.nodup_cons.1 nodup
    have all : (l.filter fun x => !x == c) = l := by
      apply List.filter_eq_self.2
      intro x member
      simpa using ne_of_mem_of_not_mem member new
    rw [List.eraseDups_cons, all, ih rest]

/-- In lists that are put together an element comes before another one if it is in an earlier list,
or if both are in the same list first and it comes first there. -/
lemma precedes_flatMap_iff {roots : List NodeId} {f : NodeId → List NodeId} :
    Precedes (roots.flatMap f) a b ↔
      roots.findIdx (a ∈ f ·) < roots.findIdx (b ∈ f ·) ∨
      ∃ root, roots[roots.findIdx (a ∈ f ·)]? = some root ∧
        roots.findIdx (a ∈ f ·) = roots.findIdx (b ∈ f ·) ∧ Precedes (f root) a b := by
  induction roots with
  | nil => simp [not_precedes_nil]
  | cons root roots ih =>
    rw [List.flatMap_cons, precedes_append_iff, List.findIdx_cons, List.findIdx_cons]
    by_cases ha : a ∈ f root <;> by_cases hb : b ∈ f root
    · simp [ha, hb]
    · simp [ha, hb]
    · simp [ha, hb]
    · simp [ha, hb, ih]

/-! ### Merging -/

section

variable [PatternEngine]

/-- The place of the first one of some roots from which an element is found. -/
def firstRoot (tree : Tree) (condition : Condition) (roots : List NodeId) (id : NodeId) : Nat :=
  roots.findIdx (id ∈ select tree condition ·)

variable {tree : Tree} {condition : Condition} {roots : List NodeId} {root : NodeId}

/-- What is selected from several roots is what is selected from any of them. -/
lemma mem_selectFromRoots {id : NodeId} :
    id ∈ selectFromRoots tree condition roots ↔
      ∃ root ∈ roots, id ∈ select tree condition root := by
  rw [selectFromRoots, List.mem_eraseDups, List.mem_flatMap]

/-- Nothing is selected twice from one root. -/
lemma nodup_select (wf : WellFormed tree) (condition : Condition) (root : NodeId) :
    (select tree condition root).Nodup := by
  rw [select_eq_filter_documentOrder wf]
  exact (wf.nodup_documentOrder root).filter _

/-- What one more root adds is what is found from it and was not found before. -/
lemma selectFromRoots_concat (wf : WellFormed tree) :
    selectFromRoots tree condition (roots ++ [root]) =
      selectFromRoots tree condition roots ++
        (select tree condition root).filter (· ∉ selectFromRoots tree condition roots) := by
  have new : (select tree condition root).removeAll (roots.flatMap (select tree condition)) =
      (select tree condition root).filter (· ∉ selectFromRoots tree condition roots) := by
    apply List.filter_congr
    intro id _
    apply Bool.eq_iff_iff.2
    simp [selectFromRoots]
  have nodup := (nodup_select wf condition root).filter (· ∉ selectFromRoots tree condition roots)
  unfold selectFromRoots at new nodup ⊢
  rw [List.flatMap_append, List.flatMap_singleton, List.eraseDups_append, new,
    eraseDups_of_nodup nodup]

/-- What has a first root is selected from it. -/
lemma mem_of_firstRoot {id : NodeId}
    (first : roots[firstRoot tree condition roots id]? = some root) :
    id ∈ select tree condition root := by
  obtain ⟨inside, rfl⟩ := List.getElem?_eq_some_iff.1 first
  have found := @List.findIdx_getElem _ _ _ inside
  exact of_decide_eq_true found

/-- What is found from one root is found in document order. -/
lemma precedes_select_iff (wf : WellFormed tree) (ha : a ∈ select tree condition root)
    (hb : b ∈ select tree condition root) :
    Precedes (select tree condition root) a b ↔ Precedes (tree.documentOrder root) a b := by
  rw [select_eq_filter_documentOrder wf]
  exact precedes_filter_iff ((mem_select wf).1 ha).2 ((mem_select wf).1 hb).2

/-- A search from several roots finds, once each, what searches from the single roots find.  An
element comes before another one if its first occurrence among all that is found does, which is to
say that it is found from an earlier root first or, if both are found from the same root first, that
it is earlier in the document.  One more root adds what is found from it and was not found before,
so the order of the roots matters for the order of the result only. -/
theorem selectFromRoots_merges (wf : WellFormed tree) (condition : Condition)
    (roots : List NodeId) :
    (selectFromRoots tree condition roots).Nodup ∧
    (∀ id, id ∈ selectFromRoots tree condition roots ↔
      ∃ root ∈ roots, id ∈ select tree condition root) ∧
    (∀ a b, Precedes (selectFromRoots tree condition roots) a b ↔
      Precedes (roots.flatMap (select tree condition)) a b) ∧
    (∀ a b, Precedes (selectFromRoots tree condition roots) a b ↔
      firstRoot tree condition roots a < firstRoot tree condition roots b ∨
      ∃ root, roots[firstRoot tree condition roots a]? = some root ∧
        firstRoot tree condition roots a = firstRoot tree condition roots b ∧
        Precedes (tree.documentOrder root) a b) ∧
    (∀ root, selectFromRoots tree condition (roots ++ [root]) =
      selectFromRoots tree condition roots ++
        (select tree condition root).filter (· ∉ selectFromRoots tree condition roots)) ∧
    ∀ others, roots.Perm others →
      (selectFromRoots tree condition roots).Perm (selectFromRoots tree condition others) := by
  have nodup (roots : List NodeId) : (selectFromRoots tree condition roots).Nodup :=
    nodup_eraseDups _
  refine ⟨nodup roots, fun id => mem_selectFromRoots, fun a b => precedes_eraseDups_iff, ?_,
    fun root => selectFromRoots_concat wf, ?_⟩
  · intro a b
    have places : Precedes (selectFromRoots tree condition roots) a b ↔ _ :=
      precedes_eraseDups_iff.trans precedes_flatMap_iff
    rw [places]
    refine or_congr_right (exists_congr fun root => and_congr_right fun first =>
      and_congr_right fun same => ?_)
    have first' : roots[firstRoot tree condition roots b]? = some root := by
      rw [← first]
      exact congrArg (roots[·]?) same.symm
    exact precedes_select_iff wf (mem_of_firstRoot first) (mem_of_firstRoot first')
  · intro others permuted
    apply (List.perm_ext_iff_of_nodup (nodup roots) (nodup others)).2
    intro id
    rw [mem_selectFromRoots, mem_selectFromRoots]
    exact exists_congr fun root => and_congr_left' permuted.mem_iff

end

attribute [local instance] Pattern.engine

/-- Roots inside one another, and one of them twice: the second item is found from itself before the
list and the first item are found from the list. -/
theorem selectFromRoots_merges_nested :
    WellFormed twoItems ∧
    Precedes (selectFromRoots twoItems
      (.any [.scope, .related .child (.tag "ul".toList)]) [4, 1, 4, 0]) 4 1 ∧
    Precedes (selectFromRoots twoItems
      (.any [.scope, .related .child (.tag "ul".toList)]) [4, 1, 4, 0]) 1 2 ∧
    [4, 1, 4, 0].Perm [0, 4, 4, 1] ∧
    (selectFromRoots twoItems
      (.any [.scope, .related .child (.tag "ul".toList)]) [4, 1, 4, 0]).Perm
      (selectFromRoots twoItems
        (.any [.scope, .related .child (.tag "ul".toList)]) [0, 4, 4, 1]) := by
  obtain ⟨-, -, -, order, -, permutes⟩ := selectFromRoots_merges wellFormed_twoItems
    (.any [.scope, .related .child (.tag "ul".toList)]) [4, 1, 4, 0]
  have permuted : [4, 1, 4, 0].Perm [0, 4, 4, 1] := by decide
  refine ⟨wellFormed_twoItems, (order 4 1).2 (.inl ?_), (order 1 2).2 (.inr ⟨1, ?_, ?_, ?_⟩),
    permuted, permutes _ permuted⟩
  · decide +kernel
  · decide +kernel
  · decide +kernel
  · unfold Precedes
    decide +kernel

end TreeQuery.Selector
