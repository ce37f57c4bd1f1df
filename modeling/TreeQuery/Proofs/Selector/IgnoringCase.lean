import TreeQuery.Pattern.Basic
import TreeQuery.Proofs.Selector.LetterCase
import TreeQuery.Proofs.Tree.LetterCase
import TreeQuery.Selector.Select

/-!
# Searches that ignore letter case

A condition that compares no ids and looks for no patterns means the same in a tree and in the tree
in small letters.  So a selector finds the same, however the letters of the selector and those of
the values and contents of the tree are written.  Main statement: `select_eq_of_sameIgnoringCase`.
-/

namespace TreeQuery.Selector
open TreeQuery.Tree

variable (tree : Tree)

/-! ### Parts of conditions -/

section

variable (root element : NodeId)

/-- Values are compared in small letters anyway. -/
lemma comparison_lower (actual : Option Text) (comparison : Comparison) (expected : Text) :
    comparison.holds (actual.map Text.lower) expected = comparison.holds actual expected := by
  cases actual with
  | none => rfl
  | some value =>
    simp only [Option.map_some, Comparison.holds, ← Text.lower_trim, Text.lower_lower]

/-- Elements have the same positions in small letters. -/
lemma position?_lower (counting : Counting) :
    counting.position? tree.lower element = counting.position? tree element := by
  simp only [Counting.position?, parent?_lower, isDocument_lower, elementChildren_lower, tag_lower]

/-- Elements are placed the same in small letters. -/
lemma placement_lower (placement : Placement) :
    placement.holds tree.lower element = placement.holds tree element := by
  cases placement <;> simp only [Placement.holds, position?_lower]

/-- The texts in small letters are the small letters of the texts. -/
lemma textPart_lower (part : TextPart) :
    part.of tree.lower element = Text.lower (part.of tree element) := by
  cases part with
  | whole => exact text_lower tree element
  | own => exact ownText_lower tree element

/-- Nodes are related the same in small letters. -/
lemma related_lower (combinator : Combinator) :
    combinator.related tree.lower root element = combinator.related tree root element := by
  cases combinator <;> simp only [Combinator.related, parent?_lower, ancestorsWithin_lower,
    previousSibling?_lower, previousSiblings_lower]

/-- The topmost element is the same in small letters. -/
lemma topmost?_lower : topmost? tree.lower root = topmost? tree root := by
  rw [topmost?, topmost?, isDocument_lower, elementChildren_lower]

end

section

variable [PatternEngine]

/-! ### Conditions -/

mutual

/-- The names of classes have nothing to do with ids and patterns. -/
lemma caseless_lower : ∀ condition : Condition, condition.lower.caseless = condition.caseless
  | .universal _ | .scope | .tag _ | .id _ | .hasClass _ | .hasAttribute _ | .attributeStarting _
  | .attributeValue .. | .attributeMatches .. | .index .. | .nth .. | .placed _ | .empty | .root
  | .contains .. | .containsData _ | .matchesPattern .. => rfl
  | .has inner | .not inner | .related _ inner => caseless_lower inner
  | .all conditions | .any conditions => caselessList_lower conditions

/-- Neither do several conditions look at letter case after they are made small. -/
lemma caselessList_lower : ∀ conditions : List Condition,
    Condition.caselessList (Condition.lowerList conditions) = Condition.caselessList conditions
  | [] => rfl
  | condition :: more => congrArg₂ and (caseless_lower condition) (caselessList_lower more)

end

mutual

/-- An element meets a condition in the tree in small letters if it meets it in the tree.  Only ids
and patterns could tell the one tree from the other. -/
theorem holds_lower (root element : NodeId) : ∀ condition : Condition, condition.caseless →
    condition.lower.holds tree.lower root element = condition.holds tree root element
  | .universal none, _ | .scope, _ => rfl
  | .universal (some name), _ | .tag name, _ => by
    simp only [Condition.lower, Condition.holds, tag_lower]
  | .hasClass name, _ => hasClass_lower tree element name
  | .hasAttribute name, _ => by
    simp only [Condition.lower, Condition.holds, attribute?_lower, Option.isSome_map]
  | .attributeStarting start, _ => by
    simp only [Condition.lower, Condition.holds, attributeNames_lower]
  | .attributeValue name comparison value, _ => by
    simp only [Condition.lower, Condition.holds, attribute?_lower, comparison_lower]
  | .index order bound, _ => by
    simp only [Condition.lower, Condition.holds, siblingIndex_lower]
  | .nth counting formula, _ => by
    simp only [Condition.lower, Condition.holds, position?_lower]
  | .placed placement, _ => placement_lower tree element placement
  | .empty, _ => by
    simp only [Condition.lower, Condition.holds, hasContent_lower]
  | .root, _ => by
    simp only [Condition.lower, Condition.holds, topmost?_lower]
  | .contains part text, _ => by
    simp only [Condition.lower, Condition.holds, textPart_lower, Text.lower_lower]
  | .containsData text, _ => by
    simp only [Condition.lower, Condition.holds, data_lower, Text.lower_lower]
  | .has inner, caseless => by
    simp only [Condition.lower, Condition.holds, elementsBelow_lower]
    exact congrArg _ (funext fun below => holds_lower element below inner caseless)
  | .not inner, caseless => congrArg not (holds_lower root element inner caseless)
  | .all conditions, caseless => (holdsList_lower root element conditions caseless).1
  | .any conditions, caseless => (holdsList_lower root element conditions caseless).2
  | .related combinator left, caseless => by
    simp only [Condition.lower, Condition.holds, related_lower]
    exact congrArg _ (funext fun other => holds_lower root other left caseless)

/-- Several conditions hold the same in small letters, all of them as well as any of them. -/
theorem holdsList_lower (root element : NodeId) : ∀ conditions : List Condition,
    Condition.caselessList conditions →
    Condition.holdsAll tree.lower root element (Condition.lowerList conditions) =
        Condition.holdsAll tree root element conditions ∧
      Condition.holdsAny tree.lower root element (Condition.lowerList conditions) =
        Condition.holdsAny tree root element conditions
  | [], _ => ⟨rfl, rfl⟩
  | condition :: more, caseless => by
    obtain ⟨caseless, caseless'⟩ := (Bool.and_eq_true _ _).mp caseless
    have first := holds_lower root element condition caseless
    obtain ⟨all, any⟩ := holdsList_lower root element more caseless'
    exact ⟨congrArg₂ and first all, congrArg₂ or first any⟩

end

/-- A condition that ignores letter case selects the same in small letters. -/
lemma select_lower (root : NodeId) {condition : Condition} (caseless : condition.caseless) :
    select tree.lower condition.lower root = select tree condition root := by
  unfold select
  rw [elementsFrom_lower]
  exact congrArg (List.filter · _) (funext fun id => holds_lower tree root id condition caseless)

/-- Letter case does not matter to a search.  Of two selectors that differ at most in it, the second
compiles if the first does.  They find the same elements in trees that differ at most in the letter
case of their values and contents, unless ids are compared or patterns are looked for. -/
theorem select_eq_of_sameIgnoringCase {s s' : Text} {condition : Condition}
    (same : Text.sameIgnoringCase s s') (parsed : parse s = .ok condition)
    (caseless : condition.caseless) :
    ∃ condition', parse s' = .ok condition' ∧
      ∀ tree tree' : Tree, tree.SameIgnoringCase tree' →
        ∀ root, select tree condition root = select tree' condition' root := by
  obtain ⟨condition', parsed', lower_eq⟩ :=
    parseAt_recased (Text.sameIgnoringCase_iff.1 same) caseless parsed
  have caseless' : condition'.caseless := by
    rw [← caseless_lower, lower_eq, caseless_lower, caseless]
  refine ⟨condition', parsed', fun tree tree' alike root => ?_⟩
  calc select tree condition root
    _ = select tree.lower condition.lower root := (select_lower tree root caseless).symm
    _ = select tree'.lower condition'.lower root := by rw [alike, lower_eq]
    _ = select tree' condition' root := select_lower tree' root caseless'

end

attribute [local instance] Pattern.engine

/-- A paragraph in a division, with a class, a language and a text. -/
def paragraph (className language content : Text) : Tree :=
  ⟨#[⟨.document, none, [1]⟩, ⟨.element (.ofTag "div".toList), some 0, [2]⟩,
    ⟨.element (.ofPairs "p".toList [("class".toList, className), ("lang".toList, language)]),
      some 1, [3]⟩,
    ⟨.text content, some 2, []⟩]⟩

/-- The paragraph is found by tag, class, attribute, word and position, and it still is with all
letters the other way. -/
theorem select_paragraph_ignoringCase :
    ∃ condition condition',
      Text.sameIgnoringCase "P.Note[Lang^='e']:Contains(hi):NTH-child(Odd)".toList
        "p.nOTE[lANG^='E']:cONTAINS(HI):nth-CHILD(oDD)".toList ∧
      parse "P.Note[Lang^='e']:Contains(hi):NTH-child(Odd)".toList = .ok condition ∧
      condition.caseless ∧
      parse "p.nOTE[lANG^='E']:cONTAINS(HI):nth-CHILD(oDD)".toList = .ok condition' ∧
      (paragraph "note".toList "EN".toList "Hi there".toList).SameIgnoringCase
        (paragraph "NOTE".toList "En".toList "hI tHERE".toList) ∧
      select (paragraph "note".toList "EN".toList "Hi there".toList) condition 0 = [2] ∧
      select (paragraph "NOTE".toList "En".toList "hI tHERE".toList) condition' 0 = [2] := by
  have same : Text.sameIgnoringCase "P.Note[Lang^='e']:Contains(hi):NTH-child(Odd)".toList
      "p.nOTE[lANG^='E']:cONTAINS(HI):nth-CHILD(oDD)".toList := by decide +kernel
  have alike : (paragraph "note".toList "EN".toList "Hi there".toList).SameIgnoringCase
      (paragraph "NOTE".toList "En".toList "hI tHERE".toList) := by decide +kernel
  have read : (parse "P.Note[Lang^='e']:Contains(hi):NTH-child(Odd)".toList).map (fun condition =>
      (condition.caseless,
        select (paragraph "note".toList "EN".toList "Hi there".toList) condition 0)) =
      .ok (true, [2]) := by decide +kernel
  obtain ⟨condition, parsed, answers⟩ := map_eq_ok_iff.1 read
  obtain ⟨caseless, found⟩ := Prod.mk.inj answers
  obtain ⟨condition', parsed', both⟩ := select_eq_of_sameIgnoringCase same parsed caseless
  exact ⟨condition, condition', same, parsed, caseless, parsed', alike, found,
    (both _ _ alike 0).symm.trans found⟩

end TreeQuery.Selector
