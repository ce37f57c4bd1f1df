import TreeQuery.Proofs.Text.LetterCase
import TreeQuery.Proofs.Tree.Links
import TreeQuery.Proofs.Tree.Store

/-!
# What holds of every tree

Besides its links a tree keeps the letters of its names: tags and attribute names are held in small
ASCII letters, whatever they were written in.  Main statement: `run_invariant`, which says of the
tree after any changes what `Linked` and `SmallLetters` say, and of a store what `Holds` says.
-/

namespace TreeQuery

/-! ### Small letters -/

namespace Attributes

/-- After a value is set the names are the old ones and that of the value. -/
lemma mem_names_insert {attributes : Attributes} {name value key : Text}
    (h : key ∈ (attributes.insert name value).names) :
    key = name ∨ key ∈ attributes.names := by
  obtain ⟨entry, member, rfl⟩ := List.mem_map.1 h
  rcases mem_insertEntry member with rfl | old
  · exact .inl rfl
  · exact .inr (List.mem_map_of_mem old)

end Attributes

namespace Element

/-- The tag and the names of the attributes are in small letters. -/
structure Small (element : Element) : Prop where
  tag : Text.Small element.tag
  names : ∀ name ∈ element.attributes.names, Text.Small name

/-- An element without attributes is in small letters, whatever its tag was written in. -/
lemma small_ofTag (tag : Text) : Small (ofTag tag) where
  tag := Text.small_lower tag
  names := nofun

/-- Setting an attribute keeps an element in small letters. -/
lemma Small.setAttribute {element : Element} (small : element.Small) (name value : Text) :
    (element.setAttribute name value).Small where
  tag := small.tag
  names key member := by
    rcases Attributes.mem_names_insert member with rfl | old
    · exact Text.small_lower name
    · exact small.names key old

/-- So an element with attributes is in small letters. -/
lemma small_ofPairs (tag : Text) (pairs : List (Text × Text)) : Small (ofPairs tag pairs) := by
  unfold ofPairs
  generalize e : ofTag tag = element
  have small : element.Small := e ▸ small_ofTag tag
  clear e
  induction pairs generalizing element with
  | nil => exact small
  | cons pair pairs ih => exact ih _ (small.setAttribute pair.1 pair.2)

end Element

namespace Tree

variable {tree next : Tree}

/-- Every element of the tree is in small letters. -/
def SmallLetters (tree : Tree) : Prop :=
  ∀ ⦃id element⦄, tree.kind? id = some (.element element) → element.Small

/-- Elements are created in small letters. -/
lemma Fresh.small {element : Element} (fresh : Fresh (.element element)) : element.Small := by
  cases fresh with
  | element tag attributes => exact Element.small_ofPairs tag attributes

/-- A step keeps the elements of a tree in small letters. -/
lemma SmallLetters.step (step : Step tree next) (small : SmallLetters tree) :
    SmallLetters next := by
  intro id element found
  cases step with
  | create fresh =>
    rw [kind?_create] at found
    split at found
    · cases found
      exact fresh.small
    · exact small found
  | relabel isElement =>
    rw [kind?_relabel isElement] at found
    split at found
    · cases found
      exact (small isElement).setAttribute _ _
    · exact small found
  | link =>
    rw [kind?_link] at found
    exact small found

/-- The elements of a tree that is built are in small letters. -/
lemma Built.smallLetters (built : Built tree) : SmallLetters tree := by
  refine built.of_step ?_ fun step => .step step
  intro id element found
  cases id <;> simp [kind?, get?, Tree.new] at found

/-! ### Runs -/

/-- After any changes, refused ones among them, the keys that the nodes have in a store are those
below its counter, and the tree has the nodes of the store at these numbers.  So the numbers in use
are those below the size of the tree, and the document has number zero.  A node is among the
children of exactly its parent, and once only; the document and elements alone have children; links
lead to nodes of the tree; and the names in it are in small letters. -/
theorem run_invariant (changes : List Change) :
    (Store.run changes).nodes.keys = Finset.range (Store.run changes).nextId ∧
    (Store.run changes).Holds (run changes) ∧
    (∀ id, (run changes).get? id ≠ none ↔ id < (run changes).size) ∧
    (∀ id, (run changes).kind? id = some .document ↔ id = documentId) ∧
    (∀ parent child, child ∈ (run changes).children parent ↔
      (run changes).parentLink? child = some parent) ∧
    (∀ parent, ((run changes).children parent).Nodup) ∧
    (∀ parent other child, child ∈ (run changes).children parent →
      child ∈ (run changes).children other → parent = other) ∧
    (∀ parent, (run changes).children parent ≠ [] → ∃ kind,
      (run changes).kind? parent = some kind ∧ (kind = .document ∨ ∃ e, kind = .element e)) ∧
    (∀ parent child, (run changes).parentLink? child = some parent →
      parent < (run changes).size ∧ child < (run changes).size) ∧
    (∀ id element, (run changes).kind? id = some (.element element) →
      (∀ c ∈ element.tag, c.isUpper = false) ∧
      ∀ name ∈ element.attributes.names, ∀ c ∈ name, c.isUpper = false) := by
  have built := built_run changes
  have linked := built.linked
  have holds := Store.holds_run changes
  generalize run changes = tree at built linked holds ⊢
  refine ⟨holds.keys_eq, holds, ?_, fun id => linked.document_iff,
    fun parent child => linked.mem_children_iff, linked.nodup_children, ?_, ?_, ?_, ?_⟩
  · intro id
    rw [Ne, get?_eq_none_iff, Nat.not_le]
  · intro parent other child here there
    rw [linked.mem_children_iff] at here there
    exact Option.some.inj (here.symm.trans there)
  · intro parent some
    obtain ⟨child, member⟩ := List.exists_mem_of_ne_nil _ some
    obtain ⟨kind, found, container⟩ := isElementLike_iff.1 (linked.container member)
    refine ⟨kind, found, ?_⟩
    cases kind with
    | document => exact .inl rfl
    | element e => exact .inr ⟨e, rfl⟩
    | _ => cases container
  · intro parent child link
    have member := linked.mem_children_iff.2 link
    obtain ⟨kind, found, -⟩ := isElementLike_iff.1 (linked.container member)
    exact ⟨lt_size_of_kind? found, linked.present member⟩
  · intro id element found
    have small := built.smallLetters found
    exact ⟨small.tag, small.names⟩

end Tree
end TreeQuery
