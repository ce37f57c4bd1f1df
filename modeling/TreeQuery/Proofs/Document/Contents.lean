import TreeQuery.Proofs.Document.Loading

/-!
# What loading keeps

If no warning is given then every described node is in the tree, its tag, its text and its data with
it, in document order.  There is one exception: where a node has no tag, its data is passed over in
silence if it has a text too.  Main statement: `loadTree_contents`.
-/

namespace TreeQuery
open TreeQuery.Tree

/-- The content of a data node. -/
def NodeKind.data? : NodeKind → Option Text
  | data content => some content
  | _ => none

namespace NodeSpec

/-- The described node and all that are in it, in document order. -/
def nodes : NodeSpec → List NodeSpec
  | ⟨tag, attributes, text, data, children⟩ =>
    ⟨tag, attributes, text, data, children⟩ :: children.flatMap nodes

/-- The data of a described node, unless it has a text and no tag. -/
def keptData (spec : NodeSpec) : Option Text :=
  if spec.tag.isNone && spec.text.isSome then none else spec.data

/-- What becomes of a described node itself: at most an element, a text and some data. -/
def own (spec : NodeSpec) : List NodeKind :=
  if spec.isDropped then []
  else
    (spec.tag.map fun tag =>
      .element ⟨Text.lower (Text.trim tag), spec.attributes.lowered⟩).toList ++
    (spec.text.map .text).toList ++ (spec.keptData.map .data).toList

/-- Nothing becomes of a node that is dropped. -/
lemma own_of_dropped {spec : NodeSpec} (dropped : spec.outline? = none) : spec.own = [] := by
  rw [own, if_pos (isDropped_iff.2 dropped)]

/-- A node that is not dropped becomes its element, its text and the data that it keeps. -/
lemma own_of_kept {spec : NodeSpec} (kept : ¬ spec.isDropped) :
    spec.own =
      (spec.tag.map fun tag =>
        .element ⟨Text.lower (Text.trim tag), spec.attributes.lowered⟩).toList ++
      (spec.text.map .text).toList ++ (spec.keptData.map .data).toList := by
  rw [own, if_neg kept]

/-- A leaf stands for its own kind alone. -/
lemma flatMap_kinds_leaf (make : Text → NodeKind) (content : Option Text) :
    (content.map fun content => Outline.leaf (make content)).toList.flatMap Outline.kinds =
      (content.map make).toList := by
  cases content with
  | none => rfl
  | some content => simp [Outline.leaf, Outline.kinds]

/-- A node that is dropped gives no outline, and none of the nodes under it are reached. -/
lemma flatMap_kinds_of_dropped {spec : NodeSpec} (dropped : spec.outline? = none) :
    spec.outline?.toList.flatMap Outline.kinds = spec.reached.flatMap own := by
  rw [reached_of_dropped dropped, dropped, List.flatMap_singleton, own_of_dropped dropped]
  rfl

/-- The nodes of the outline are what becomes of the nodes that are reached. -/
theorem flatMap_kinds_outline? (spec : NodeSpec) :
    spec.outline?.toList.flatMap Outline.kinds = spec.reached.flatMap own := by
  induction spec using outline?.induct with
  | case1 tag attributes text data children blank =>
    apply flatMap_kinds_of_dropped
    rw [outline?, if_pos blank]
  | case2 tag attributes text data children named ih =>
    have inside : (children.filterMap outline?).flatMap Outline.kinds =
        (children.flatMap reached).flatMap own := by
      rw [List.filterMap_eq_flatMap_toList, List.flatMap_assoc, List.flatMap_assoc]
      exact List.flatMap_congr ih
    have kept := outline?_element named attributes text data children
    rw [reached_of_kept kept, kept, List.flatMap_cons, own_of_kept (not_isDropped kept),
      Option.toList_some, List.flatMap_singleton, Outline.kinds, List.flatMap_append,
      List.flatMap_append, flatMap_kinds_leaf, flatMap_kinds_leaf, inside]
    rfl
  | case3 attributes text data children leaf =>
    obtain ⟨rfl, none⟩ := leaf
    have found := outline?_leaf none text data
    cases text with
    | some content =>
      rw [reached_of_kept found, found, List.flatMap_cons, own_of_kept (not_isDropped found)]
      exact flatMap_kinds_leaf .text (some content)
    | none =>
      cases data with
      | some content =>
        rw [reached_of_kept found, found, List.flatMap_cons, own_of_kept (not_isDropped found)]
        exact flatMap_kinds_leaf .data (some content)
      | none => exact flatMap_kinds_of_dropped found
  | case4 attributes text data children full =>
    apply flatMap_kinds_of_dropped
    rw [outline?, if_neg full]

/-- Where nothing is dropped every node is reached. -/
theorem reached_eq_nodes (spec : NodeSpec) (kept : ∀ node ∈ spec.reached, ¬ node.isDropped) :
    spec.reached = spec.nodes := by
  fun_induction nodes spec with
  | case1 tag attributes text data children ih =>
    have used : ¬ isDropped ⟨tag, attributes, text, data, children⟩ := by
      apply kept
      rw [reached_eq]
      exact .head _
    rw [reached_eq, if_neg used] at kept ⊢
    apply congrArg
    apply List.flatMap_congr
    intro child member
    apply ih child member
    intro node inside
    exact kept node (.tail _ (List.mem_flatMap_of_mem member inside))

/-- A field of what nodes are, read off what becomes of the descriptions, is a field of these. -/
lemma filterMap_flatMap_own {specs : List NodeSpec} (kept : ∀ spec ∈ specs, ¬ spec.isDropped)
    {field : NodeKind → Option Text} {described : NodeSpec → Option Text}
    (each : ∀ spec : NodeSpec, ¬ spec.isDropped →
      spec.own.filterMap field = (described spec).toList) :
    (specs.flatMap own).filterMap field = specs.filterMap described := by
  rw [List.filterMap_flatMap, List.filterMap_eq_flatMap_toList described]
  apply List.flatMap_congr
  intro spec member
  exact each spec (kept spec member)

/-- At most one tag, one text and some data come of a node. -/
lemma filterMap_own {spec : NodeSpec} (kept : ¬ spec.isDropped) :
    spec.own.filterMap (fun kind => kind.element?.map (·.tag)) =
        (spec.tag.map fun tag => Text.lower (Text.trim tag)).toList ∧
      spec.own.filterMap (·.text?) = spec.text.toList ∧
      spec.own.filterMap (·.data?) = spec.keptData.toList := by
  rw [own_of_kept kept]
  cases spec.tag <;> cases spec.text <;> cases spec.keptData <;> exact ⟨rfl, rfl, rfl⟩

/-- At most as many data are kept as are given. -/
lemma length_filterMap_keptData_le (specs : List NodeSpec) :
    (specs.filterMap keptData).length ≤ (specs.filterMap (·.data)).length := by
  rw [List.length_filterMap_eq_countP, List.length_filterMap_eq_countP]
  apply List.countP_mono_left
  intro spec _ some
  unfold keptData at some
  split at some
  · cases some
  · exact some

/-- All data is kept exactly if there is no node with a text, data and no tag. -/
lemma filterMap_keptData_eq_iff (specs : List NodeSpec) :
    specs.filterMap keptData = specs.filterMap (·.data) ↔
      ∀ spec ∈ specs, spec.tag = none → spec.text.isSome → spec.data = none := by
  induction specs with
  | nil => simp
  | cons spec specs ih =>
    rw [List.forall_mem_cons, ← ih]
    by_cases lost : spec.tag.isNone && spec.text.isSome
    · have unkept : spec.keptData = none := by rw [keptData, if_pos lost]
      rw [Bool.and_eq_true, Option.isNone_iff_eq_none] at lost
      rw [List.filterMap_cons_none unkept]
      cases data : spec.data with
      | none => simp [List.filterMap_cons_none, data]
      | some content =>
        have shorter := length_filterMap_keptData_le specs
        constructor
        · intro same
          rw [same, List.filterMap_cons_some data, List.length_cons] at shorter
          exact absurd shorter (Nat.not_succ_le_self _)
        · intro ⟨unlost, _⟩
          exact absurd (unlost lost.1 lost.2) (Option.some_ne_none content)
    · have kept : spec.keptData = spec.data := by rw [keptData, if_neg lost]
      have unlost : spec.tag = none → spec.text.isSome → spec.data = none := by
        intro untagged text
        exact absurd (by simp [untagged, text]) lost
      rw [List.filterMap_cons, List.filterMap_cons, kept, and_iff_right unlost]
      cases spec.data with
      | none => rfl
      | some content => exact List.cons_inj_right content

end NodeSpec

/-- Loading without a warning puts every tag and every text of the descriptions into the tree, in
document order, and all data but that of nodes with a text and no tag.  So nothing is lost exactly
if there is no node with a text, data and no tag. -/
theorem loadTree_contents (specs : List NodeSpec) :
    ∃ loading, loadTree specs = .ok loading ∧ (loading.warnings = [] →
      loading.tree.contents.filterMap (fun kind => kind.element?.map (·.tag)) =
        (specs.flatMap NodeSpec.nodes).filterMap
          (fun node => node.tag.map fun tag => Text.lower (Text.trim tag)) ∧
      loading.tree.contents.filterMap (·.text?) =
        (specs.flatMap NodeSpec.nodes).filterMap (·.text) ∧
      loading.tree.contents.filterMap (·.data?) =
        (specs.flatMap NodeSpec.nodes).filterMap (·.keptData) ∧
      (loading.tree.contents.filterMap (·.data?) =
          (specs.flatMap NodeSpec.nodes).filterMap (·.data) ↔
        ∀ node ∈ specs.flatMap NodeSpec.nodes,
          node.tag = none → node.text.isSome → node.data = none)) := by
  obtain ⟨loading, loaded, wf, numbered, warnings⟩ := loadTree_numbered specs
  refine ⟨loading, loaded, fun silent => ?_⟩
  have kept : ∀ spec ∈ specs.flatMap NodeSpec.reached, ¬ spec.isDropped := by
    rw [← List.countP_eq_zero, ← warnings, silent]
    rfl
  have reached : specs.flatMap NodeSpec.reached = specs.flatMap NodeSpec.nodes := by
    apply List.flatMap_congr
    intro spec member
    apply NodeSpec.reached_eq_nodes
    intro node inside
    exact kept node (List.mem_flatMap_of_mem member inside)
  have contents : loading.tree.contents =
      (specs.flatMap NodeSpec.nodes).flatMap NodeSpec.own := by
    rw [numbered.contents_eq wf, List.filterMap_eq_flatMap_toList, List.flatMap_assoc, ← reached,
      List.flatMap_assoc]
    exact List.flatMap_congr fun spec _ => spec.flatMap_kinds_outline?
  rw [reached] at kept
  rw [contents]
  have datas := NodeSpec.filterMap_flatMap_own kept fun _ used => (NodeSpec.filterMap_own used).2.2
  refine ⟨?_, ?_, datas, ?_⟩
  · exact NodeSpec.filterMap_flatMap_own kept fun _ used => (NodeSpec.filterMap_own used).1
  · exact NodeSpec.filterMap_flatMap_own kept fun _ used => (NodeSpec.filterMap_own used).2.1
  · rw [datas]
    exact NodeSpec.filterMap_keptData_eq_iff _

/-- A list with one item, that has a text and data, and some data behind it. -/
def itemWithData : List NodeSpec :=
  [⟨some "ul".toList, .empty, none, none,
    [⟨some " LI ".toList, .empty, some "a".toList, some "b".toList, []⟩,
      ⟨none, .empty, none, some "c".toList, []⟩]⟩]

/-- Of this list nothing is lost. -/
theorem loadTree_contents_item :
    ∃ loading, loadTree itemWithData = .ok loading ∧ loading.warnings = [] ∧
      loading.tree.contents.filterMap (fun kind => kind.element?.map (·.tag)) =
        ["ul".toList, "li".toList] ∧
      loading.tree.contents.filterMap (·.text?) = ["a".toList] ∧
      loading.tree.contents.filterMap (·.data?) = ["b".toList, "c".toList] := by
  obtain ⟨loading, loaded, contents⟩ := loadTree_contents itemWithData
  have silent : (loadTree itemWithData).map (·.warnings) = .ok [] := rfl
  rw [loaded] at silent
  have silent : loading.warnings = [] := Except.ok.inj silent
  obtain ⟨tags, texts, datas, -⟩ := contents silent
  refine ⟨loading, loaded, silent, tags.trans ?_, texts.trans ?_, datas.trans ?_⟩
  all_goals
    simp only [itemWithData, NodeSpec.nodes, List.flatMap_cons, List.flatMap_nil]
    rfl

/-- Data that is loaded with a text and no tag is lost without a warning. -/
theorem loadTree_loses_data :
    ∃ loading, loadTree [⟨none, .empty, some "a".toList, some "b".toList, []⟩] = .ok loading ∧
      loading.warnings = [] ∧
      ([⟨none, .empty, some "a".toList, some "b".toList, []⟩].flatMap NodeSpec.nodes).filterMap
        (·.data) = ["b".toList] ∧
      loading.tree.contents.filterMap (·.data?) = [] := by
  refine ⟨_, rfl, rfl, ?_, ?_⟩
  · simp [NodeSpec.nodes]
  · decide

end TreeQuery
