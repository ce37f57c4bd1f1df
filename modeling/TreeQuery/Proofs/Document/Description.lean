import Mathlib.Data.List.Perm.Subperm
import TreeQuery.Document.Spec
import TreeQuery.Proofs.Tree.Outline

/-!
# What a description stands for

A described node becomes an outline or is dropped with everything in it (`NodeSpec.outline?`).  This
is said here by recursion on the descriptions, without a tree: attributes by what is found under
each name (`Attributes.get?_lowered`), children by the outlines of the nodes that describe them.
-/

namespace TreeQuery

/-! ### Attributes -/

namespace Attributes

/-- No entry occurs twice. -/
lemma nodup_entries (attributes : Attributes) : attributes.entries.Nodup := by
  apply attributes.sorted.imp
  rintro a b lower rfl
  exact List.lt_irrefl _ lower

/-- The entries are the names together with the values that they are looked up as. -/
lemma mem_entries_iff {attributes : Attributes} {entry : Text × Text} :
    entry ∈ attributes.entries ↔ attributes.get? entry.1 = some entry.2 := by
  unfold get?
  constructor
  · intro member
    obtain ⟨before, after, split⟩ := List.append_of_mem member
    have sorted := attributes.sorted
    rw [split, List.pairwise_append] at sorted
    have found : attributes.entries.find? (·.1 == entry.1) = some entry := by
      apply List.find?_eq_some_iff_append.2
      refine ⟨beq_self_eq_true _, before, after, split, ?_⟩
      intro earlier before'
      have lower := sorted.2.2 earlier before' entry (.head _)
      simp only [Bool.not_eq_true', beq_eq_false_iff_ne]
      intro same
      rw [same] at lower
      exact List.lt_irrefl _ lower
    rw [found]
    rfl
  · intro found
    obtain ⟨other, found, value⟩ := Option.map_eq_some_iff.1 found
    have name : other.1 = entry.1 := by simpa using List.find?_some found
    have same : other = entry := Prod.ext name value
    exact same ▸ List.mem_of_find?_eq_some found

/-- Attributes are what is found under each name. -/
theorem ext_get? {left right : Attributes} (same : ∀ name, left.get? name = right.get? name) :
    left = right := by
  have perm : left.entries.Perm right.entries := by
    apply (List.perm_ext_iff_of_nodup left.nodup_entries right.nodup_entries).2
    intro entry
    rw [mem_entries_iff, mem_entries_iff, same]
  have entries : left.entries = right.entries := by
    apply perm.eq_of_pairwise _ left.sorted right.sorted
    intro a b _ _ lower higher
    exact absurd (List.lt_trans lower higher) (List.lt_irrefl _)
  cases left
  cases right
  cases entries
  rfl

/-- The last of the values whose name in small letters is the given one. -/
def lastUnder? (name : Text) (entries : List (Text × Text)) : Option Text :=
  (entries.reverse.find? fun entry => Text.lower entry.1 == name).map (·.2)

/-- An entry at the end goes before all the others. -/
lemma lastUnder?_concat (name : Text) (entries : List (Text × Text)) (entry : Text × Text) :
    lastUnder? name (entries ++ [entry]) =
      if name = Text.lower entry.1 then some entry.2 else lastUnder? name entries := by
  unfold lastUnder?
  rw [List.reverse_concat, List.find?_cons]
  by_cases same : name = Text.lower entry.1
  · simp [same]
  · rw [if_neg same, beq_eq_false_iff_ne.2 (Ne.symm same)]

/-- An entry at the front counts only where no later one has the name. -/
lemma lastUnder?_cons (name : Text) (entry : Text × Text) (later : List (Text × Text)) :
    lastUnder? name (entry :: later) =
      (lastUnder? name later).or (if name = Text.lower entry.1 then some entry.2 else none) := by
  unfold lastUnder?
  rw [List.reverse_cons, List.find?_append, Option.map_or]
  by_cases same : name = Text.lower entry.1
  · simp [same]
  · simp [same, Ne.symm same]

/-- The attributes with their names in small letters.  Where names come to be the same only the last
one stays. -/
def lowered (attributes : Attributes) : Attributes :=
  attributes.entries.foldr
    (fun entry later =>
      if (later.get? (Text.lower entry.1)).isSome then later
      else later.insert (Text.lower entry.1) entry.2)
    empty

/-- Names in small letters are looked up as the last entry that has them. -/
theorem get?_lowered (attributes : Attributes) (name : Text) :
    attributes.lowered.get? name = lastUnder? name attributes.entries := by
  unfold lowered
  induction attributes.entries with
  | nil => rfl
  | cons entry later ih =>
    rw [List.foldr_cons, lastUnder?_cons, ← ih]
    generalize List.foldr _ empty later = kept
    cases found : kept.get? (Text.lower entry.1) with
    | none =>
      rw [Option.isSome_none, if_neg Bool.false_ne_true, get?_insert]
      by_cases same : name = Text.lower entry.1
      · simp [same, found]
      · simp [same]
    | some value =>
      rw [Option.isSome_some, if_pos rfl]
      by_cases same : name = Text.lower entry.1
      · simp [same, found]
      · simp [same]

end Attributes

/-- Setting attributes one after the other leaves the last one of each name. -/
lemma Element.get?_ofPairs (tag name : Text) (pairs : List (Text × Text)) :
    (Element.ofPairs tag pairs).attributes.get? name = Attributes.lastUnder? name pairs := by
  induction pairs using List.reverseRecOn with
  | nil => rfl
  | append_singleton pairs pair ih =>
    rw [Attributes.lastUnder?_concat, ← ih]
    unfold ofPairs
    rw [List.foldl_concat]
    exact Attributes.get?_insert _ _ _ _

/-- The tag of an element is made small. -/
lemma Element.tag_ofPairs (tag : Text) (pairs : List (Text × Text)) :
    (Element.ofPairs tag pairs).tag = Text.lower tag := by
  induction pairs using List.reverseRecOn with
  | nil => rfl
  | append_singleton pairs pair ih =>
    rw [← ih]
    unfold ofPairs
    rw [List.foldl_concat]
    rfl

/-- Made from the entries of some attributes an element has these attributes with small names. -/
theorem Element.ofPairs_entries (tag : Text) (attributes : Attributes) :
    Element.ofPairs tag attributes.entries = ⟨Text.lower tag, attributes.lowered⟩ := by
  have same : (Element.ofPairs tag attributes.entries).attributes = attributes.lowered := by
    apply Attributes.ext_get?
    intro name
    rw [get?_ofPairs, Attributes.get?_lowered]
  rw [← tag_ofPairs tag attributes.entries, ← same]

/-! ### Nodes -/

/-- A text or some data, with nothing below it. -/
def Outline.leaf (kind : NodeKind) : Outline := ⟨kind, []⟩

namespace NodeSpec

/-- The outline of a described node, or nothing if it is dropped: a node with a tag that is not
blank is an element with its text, its data and its children in this order; a node without a tag is
a text or else some data, unless it has attributes or children. -/
def outline? : NodeSpec → Option Outline
  | ⟨some tag, attributes, text, data, children⟩ =>
    if Text.trim tag = [] then none
    else
      some ⟨.element ⟨Text.lower (Text.trim tag), attributes.lowered⟩,
        (text.map fun content => Outline.leaf (.text content)).toList ++
          (data.map fun content => Outline.leaf (.data content)).toList ++
          children.filterMap outline?⟩
  | ⟨none, attributes, text, data, children⟩ =>
    if children = [] ∧ attributes.entries = [] then
      (text.map fun content => Outline.leaf (.text content)).or
        (data.map fun content => Outline.leaf (.data content))
    else none

/-- A tagged node becomes an element over its text, its data and its children, in this order. -/
lemma outline?_element {tag : Text} (named : Text.trim tag ≠ []) (attributes : Attributes)
    (text data : Option Text) (children : List NodeSpec) :
    outline? ⟨some tag, attributes, text, data, children⟩ =
      some ⟨.element ⟨Text.lower (Text.trim tag), attributes.lowered⟩,
        (text.map fun content => Outline.leaf (.text content)).toList ++
          (data.map fun content => Outline.leaf (.data content)).toList ++
          children.filterMap outline?⟩ := by
  rw [outline?, if_neg named]

/-- A node with no tag, no attributes and no children becomes its text or else its data. -/
lemma outline?_leaf {attributes : Attributes} (none : attributes.entries = [])
    (text data : Option Text) :
    outline? ⟨.none, attributes, text, data, []⟩ =
      (text.map fun content => Outline.leaf (.text content)).or
        (data.map fun content => Outline.leaf (.data content)) := by
  rw [outline?, if_pos ⟨rfl, none⟩]

/-- Whether nothing becomes of a described node. -/
def isDropped (spec : NodeSpec) : Bool := spec.outline?.isNone

/-- The nodes that are dropped are those that have no outline. -/
lemma isDropped_iff {spec : NodeSpec} : spec.isDropped ↔ spec.outline? = none :=
  Option.isNone_iff_eq_none

/-- A node that has an outline is not dropped. -/
lemma not_isDropped {spec : NodeSpec} {outline : Outline} (kept : spec.outline? = some outline) :
    ¬ spec.isDropped := by
  rw [isDropped_iff, kept]
  exact Option.some_ne_none outline

/-- The described nodes that are not in a dropped one, in document order. -/
def reached : NodeSpec → List NodeSpec
  | ⟨tag, attributes, text, data, children⟩ =>
    ⟨tag, attributes, text, data, children⟩ ::
      if isDropped ⟨tag, attributes, text, data, children⟩ then [] else children.flatMap reached

/-- A node is reached itself, and under it what its children reach, unless it is dropped. -/
lemma reached_eq (spec : NodeSpec) :
    spec.reached = spec :: if spec.isDropped then [] else spec.children.flatMap reached := by
  cases spec
  rw [reached]

/-- From a node that is dropped no other is reached. -/
lemma reached_of_dropped {spec : NodeSpec} (dropped : spec.outline? = none) :
    spec.reached = [spec] := by
  rw [reached_eq, if_pos (isDropped_iff.2 dropped)]

/-- From a node that is kept the children are reached too. -/
lemma reached_of_kept {spec : NodeSpec} {outline : Outline} (kept : spec.outline? = some outline) :
    spec.reached = spec :: spec.children.flatMap reached := by
  rw [reached_eq, if_neg (not_isDropped kept)]

end NodeSpec
end TreeQuery
