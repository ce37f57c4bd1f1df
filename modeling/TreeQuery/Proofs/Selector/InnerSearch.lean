import TreeQuery.Pattern.Basic
import TreeQuery.Proofs.Selector.Combinators
import TreeQuery.Proofs.Selector.Nesting

/-!
# Searches inside a search

`has` makes the element at hand the root of a search of its own and asks whether that search finds
anything but its root.  So it does not matter where the search around it starts.  A compound behind
the sign for a child is one that the search for the compound finds among the element children.

The argument of `has` ends at the first closing bracket that is not nested, and this may be one in
an attribute test.  The attribute test is not closed then, so the selector is refused and not read
as another one.  Main statement: `has_iff_select`.
-/

namespace TreeQuery.Selector
open TreeQuery.Tree

/-- What a text starts with comes before a character that is none of it. -/
lemma exists_append_of_not_mem {start s front back : Text} {c : Char}
    (split : start ++ s = front ++ c :: back) (other : c ∉ start) :
    ∃ t, front = start ++ t ∧ s = t ++ c :: back := by
  rcases List.append_eq_append_iff.1 split with ⟨t, front_eq, s_eq⟩ | ⟨t, start_eq, behind⟩
  · exact ⟨t, front_eq, s_eq⟩
  · cases t with
    | nil => exact ⟨[], by simp [start_eq], behind.symm⟩
    | cons d t =>
      cases behind
      exact absurd (by simp [start_eq]) other

section

variable [PatternEngine]

/-! ### The first compound -/

/-- A text that starts with a compound that means something, and goes on with nothing that could be
a part of it. -/
def Leads (s : Text) : Prop :=
  ∃ gap text rest conditions, s = gap ++ text ++ rest ∧ Blank gap ∧ Stops rest ∧ text ≠ [] ∧
    Spells text conditions

variable {s t : Text}

/-- What completes an alternative starts with a compound, or with a separator if there is nothing
before it. -/
lemma leads_of_foldlM {base : Nat} {tokens : List Token} {query : Query}
    {progress progress' : Progress} {last : Condition}
    (read : (Cursor.start base s).tokens.1 = .ok tokens)
    (folded : tokens.foldlM (Progress.step parseAt query) progress = .ok progress')
    (complete : progress'.chain = .complete last) (unmet : ∀ c, progress.chain ≠ .complete c)
    (goesOn : progress.chain = .start → ¬ Stops s) : Leads s := by
  have rendering : Rendering .edge base tokens s := rendering_of_start read
  cases rendering with
  | nil =>
    cases folded
    exact absurd complete (unmet last)
  | @cons _ _ _ _ gap _ rest meets blank _ _ writes later =>
    obtain ⟨middle, step, -⟩ := foldlM_cons_eq_ok_iff.1 folded
    cases writes with
    | compound compound nonempty =>
      obtain ⟨chain, read, -⟩ := map_eq_ok_iff.1 step
      obtain ⟨condition, read, -⟩ := Chain.compound_eq_ok_iff.1 read
      obtain ⟨conditions, simples, -⟩ := Compound.read_eq_ok_iff.1 (compound_read_moved read 0)
      exact ⟨gap, _, rest, conditions, rfl, blank, later.follows.stops rfl, nonempty,
        compound, simples⟩
    | @mark mark o own =>
      exfalso
      cases mark with
      | comma =>
        obtain ⟨left, met, -⟩ := Progress.step_comma_eq_ok_iff.1 step
        exact unmet left met
      | combinator k =>
        obtain ⟨chain, step, -⟩ := map_eq_ok_iff.1 step
        obtain ⟨left, ⟨start, -⟩ | met, -⟩ := Chain.combinator_eq_ok_iff.1 step
        · refine goesOn start ?_
          rw [List.append_assoc]
          exact stops_of_mark own blank
        · exact unmet left met
    | descent => cases meets

/-- Behind the sign for a child there is a compound. -/
lemma leads_of_child {condition : Condition}
    (parsed : parse ("> ".toList ++ s) = .ok condition) : Leads s := by
  obtain ⟨tokens, progress, last, read, folded, complete, -⟩ := (parse_eq_ok_iff 0 ⟨[], 0⟩).1 parsed
  have sign : (Cursor.start 0 ("> ".toList ++ s)).tokens.1 =
      (Cursor.start 1 (' ' :: s)).tokens.1.map (.separator (.combinator .child) 0 :: ·) :=
    @Cursor.tokens_of_mark [] (' ' :: s) false (.combinator .child) nofun nofun 0
  have gap : (Cursor.start 1 (' ' :: s)).tokens.1 = (Cursor.start 2 s).tokens.1 :=
    Cursor.tokens_of_gap (List.forall_mem_singleton.2 (by decide) : Blank [' ']) 1 s
  obtain ⟨later, behind, rfl⟩ := map_eq_ok_iff.1 (sign.symm.trans read)
  obtain ⟨middle, step, folded⟩ := foldlM_cons_eq_ok_iff.1 folded
  cases step
  exact leads_of_foldlM (gap.symm.trans behind) folded complete nofun nofun

/-! ### Arguments that end early -/

/-- A nesting pseudo-class means something only if its argument does. -/
lemma isOk_of_simples_nesting {nesting : Nesting} {inner : Text} {conditions : List Condition}
    (balanced : Balanced .round inner)
    (h : Compound.simples parseAt (.start 0 (nesting.opening ++ inner ++ ')' :: t)) =
      .ok conditions) : (parse inner).isOk := by
  obtain ⟨t', last, first, -, read⟩ := exists_simple_nesting parseAt balanced
    (show (Cursor.start 0 (nesting.opening ++ inner ++ ')' :: t)).rest = _ from rfl)
  rw [Compound.simples_eq, first] at h
  dsimp only at h
  rw [read, Nat.add_comm, parseAt_shift] at h
  change (parseAt inner 0).isOk
  rw [isOk_iff]
  cases meaning : parseAt inner (Cursor.start 0 (nesting.opening ++ inner ++ ')' :: t)).offset with
  | ok condition => exact ⟨condition, meaning⟩
  | error e =>
    rw [meaning] at h
    cases h

/-- A selector that starts with a nesting pseudo-class goes on with a selector between brackets. -/
lemma exists_argument_of_parse {nesting : Nesting} {condition : Condition}
    (parsed : parse (nesting.opening ++ s) = .ok condition) :
    ∃ inner rest, s = inner ++ ')' :: rest ∧ Balanced .round inner ∧ (parse inner).isOk := by
  obtain ⟨tokens, progress, last, read, folded, complete, -⟩ := (parse_eq_ok_iff 0 ⟨[], 0⟩).1 parsed
  have goesOn : ¬ Stops (nesting.opening ++ s) := fun stops => absurd (stops ':' rfl) (by decide)
  obtain ⟨gap, text, rest, conditions, split, blank, stops, -, compound, simples⟩ :=
    leads_of_foldlM read folded complete nofun fun _ => goesOn
  have tight : gap = [] := by
    cases gap with
    | nil => rfl
    | cons c gap =>
      cases (List.cons.inj split).1
      exact absurd (blank ':' (.head _)) (by decide)
  subst tight
  have split : text ++ rest = ':' :: nesting.name ++ '(' :: s := by
    simpa [Nesting.opening] using split.symm
  -- The name belongs to the compound, and so does the region behind it.
  obtain ⟨after, whole⟩ : ∃ after, (Cursor.start 0 (text ++ rest)).ReadsCompound text after :=
    ⟨_, Cursor.readsCompound_of_compoundText compound stops rfl⟩
  obtain ⟨more, text_eq, behind⟩ := whole.exists_more (.of_chars Nesting.plain_name) split
  cases behind with
  | nothing stops => exact absurd (stops '(' rfl) (by decide)
  | char first plain =>
    cases first
    cases plain
  | @region _ _ _ _ _ inner later _ first opening region _ =>
    cases first
    cases opening
    have balanced := Cursor.balanced_of_region Brackets.distinct_round region
    have inside : '(' :: s = '(' :: inner ++ [')'] ++ _ := (Cursor.region_reads region).rest_eq
    have text_eq : text = nesting.opening ++ inner ++ ')' :: later := by
      simp [text_eq, Nesting.opening, Brackets.round]
    exact ⟨inner, _, by simpa using inside, balanced,
      isOk_of_simples_nesting balanced (text_eq ▸ simples)⟩

/-- A closing bracket is no simple selector. -/
lemma simples_closing_ne_ok {nested : Nested} {conditions : List Condition} {o : Nat} :
    Compound.simples nested (.start o (')' :: t)) ≠ .ok conditions := by
  intro h
  cases conditions with
  | nil => cases Compound.simples_eq_nil_iff.1 h
  | cons condition conditions =>
    obtain ⟨after, reads, -⟩ := Compound.exists_readsSimple_of_simples h
    cases reads with
    | tag first letter =>
      cases first
      exact absurd letter (by decide +kernel)
    | id first | hasClass first | universal first | universalTag first | attributeTest first
    | plain first | call first => cases first

/-- Simple selectors do not go on with a closing bracket. -/
lemma Spells.simples_closing_ne_ok {conditions conditions' : List Condition}
    (spells : Spells s conditions) :
    Compound.simples parseAt (.start 0 (s ++ ')' :: t)) ≠ .ok conditions' := by
  intro h
  have detached : Detached (')' :: t) := by
    intro c first
    cases first
    decide +kernel
  rw [Compound.simples_append spells.simples detached] at h
  cases closing : Compound.simples parseAt (.start 0 (')' :: t)) with
  | ok conditions => exact Selector.simples_closing_ne_ok closing
  | error e =>
    rw [closing] at h
    cases h

/-- What is cut off a selector of one compound at a closing bracket starts with no compound that
means something. -/
lemma Part.not_leads (part : Part) {front back : Text}
    (split : part.written = front ++ ')' :: back) : ¬ Leads front := by
  rintro ⟨gap, text, rest, conditions, rfl, blank, stops, nonempty, spells⟩
  obtain ⟨after, next, ended⟩ := Cursor.exists_next_of_tokens part.single
  obtain ⟨_, _, last, -, -, read, rfl⟩ := Cursor.exists_compound_of_next next
  have only : Blank last.rest := by
    have none := Cursor.tokens_eq_nil_iff.1 ended
    exact List.dropWhile_eq_nil_iff.1 none
  obtain ⟨c, t, rfl, goesOn⟩ := spells.compound.exists_first nonempty
  obtain ⟨visible, -⟩ := not_isStop_iff.1 goesOn
  have written : Cursor.start 0 part.written =
      ⟨0, gap ++ c :: (t ++ (rest ++ ')' :: back)), false⟩ := by simp [split, Cursor.start]
  rw [written, Cursor.blanks_of_gap blank visible] at read
  -- The compound of the part goes on where the one that is cut off ends.
  obtain ⟨more, text_eq, behind⟩ := (Cursor.compound_eq_ok_iff.1 read).exists_more spells.compound
    (show _ = c :: t ++ (rest ++ ')' :: back) from rfl)
  by_cases tight : rest = []
  · subst tight
    cases behind with
    | nothing stops => exact absurd (stops ')' rfl) (by decide)
    | region first opening =>
      cases first
      cases opening
    | char first =>
      cases first
      have accepted := compound_read_moved ((parse_of_tokens part.single).symm.trans part.parsed) 0
      obtain ⟨conditions', simples, -⟩ := Compound.read_eq_ok_iff.1 accepted
      exact spells.simples_closing_ne_ok (text_eq ▸ simples)
  · have stops' : Stops (rest ++ ')' :: back) := by
      obtain ⟨d, rest, rfl⟩ := List.exists_cons_of_ne_nil tight
      exact stops
    obtain ⟨-, rfl⟩ := behind.eq_of_stops stops'
    exact absurd (only ')' (by simp [Cursor.past])) (by decide)

/-- Behind the sign for a child a compound is one that is a child of the root of the search. -/
lemma Part.parse_child (part : Part) : parse ("> ".toList ++ part.written) =
    .ok (Condition.scope.combine .child part.condition) := by
  have joins : Joint .child "> ".toList :=
    @Joint.mark .child [] [' '] nofun nofun (List.forall_mem_singleton.2 (by decide))
  exact (Link.completes ⟨part, .child, "> ".toList, joins⟩ nofun).parse_eq

/-- The argument that asks for a compound as a child ends where it should exactly if the round
brackets of the compound balance.  Otherwise there is none, or it ends early and means nothing. -/
lemma Part.parse_has_child_iff (part : Part) {condition : Condition} :
    parse (":has(> ".toList ++ part.written ++ [')']) = .ok condition ↔
      Balanced .round part.written ∧
        condition = .has (Condition.scope.combine .child part.condition) := by
  generalize inner_eq : "> ".toList ++ part.written = inner
  have text_eq : ":has(> ".toList ++ part.written ++ [')'] = Nesting.has.around [] inner := by
    rw [← inner_eq]
    rfl
  have child : parse inner = .ok (Condition.scope.combine .child part.condition) :=
    inner_eq ▸ part.parse_child
  have balanced_iff : Balanced .round inner ↔ Balanced .round part.written := by
    rw [← inner_eq]
    exact (balanced_cons_iff (by decide) (by decide) (by decide) (by decide)).trans
      (balanced_cons_iff (by decide) (by decide) (by decide) (by decide))
  have read (balanced : Balanced .round inner) :
      parse (Nesting.has.around [] inner) =
        .ok (.has (Condition.scope.combine .child part.condition)) := by
    rw [parse_around .has balanced .nil, child]
    rfl
  rw [text_eq, ← balanced_iff]
  constructor
  · intro parsed
    have parsed' : parse (Nesting.has.opening ++ (inner ++ [')'])) = .ok condition := parsed
    obtain ⟨body, rest, split, balanced, accepted⟩ := exists_argument_of_parse parsed'
    rcases List.eq_nil_or_concat rest with rfl | ⟨back, c, rfl⟩
    · cases List.append_left_injective _ split
      cases parsed.symm.trans (read balanced)
      exact ⟨balanced, rfl⟩
    · -- The argument ends early, with a part of the compound.
      exfalso
      have cut : inner = body ++ ')' :: back := by
        rw [List.concat_eq_append, ← List.cons_append, ← List.append_assoc] at split
        exact (List.append_inj' split rfl).1
      obtain ⟨front, rfl, behind⟩ : ∃ front, body = "> ".toList ++ front ∧
          part.written = front ++ ')' :: back :=
        exists_append_of_not_mem (inner_eq.trans cut) (by decide)
      obtain ⟨condition', accepted⟩ := isOk_iff.1 accepted
      exact part.not_leads behind (leads_of_child accepted)
  · rintro ⟨balanced, rfl⟩
    exact read balanced

/-! ### The meaning of `has` -/

variable {tree : Tree} {root id : NodeId}

/-- What is below an element is found by the search from the element, which also looks at its root.
-/
lemma has_holds_iff (wf : WellFormed tree) {inner : Condition} :
    (Condition.has inner).holds tree root id ↔ ∃ found ∈ select tree inner id, found ≠ id := by
  have below {x : NodeId} : x ∈ tree.elementsBelow id ↔ x ∈ tree.documentOrder id ∧ x ≠ id := by
    rw [wf.elementsBelow_eq, List.mem_filter, wf.mem_descendants, wf.mem_documentOrder]
    constructor
    · rintro ⟨ancestor, element⟩
      refine ⟨.inr ⟨ancestor, element⟩, ?_⟩
      rintro rfl
      exact wf.acyclic x ancestor
    · rintro ⟨rfl | inside, differ⟩
      · exact absurd rfl differ
      · exact inside
  simp only [Condition.holds, List.any_eq_true, below, mem_select wf]
  exact exists_congr fun found => and_right_comm

/-- A search for children of its root finds element children that the search without them finds. -/
lemma has_child_holds_iff (wf : WellFormed tree) {here : Condition} :
    (Condition.has (Condition.scope.combine .child here)).holds tree root id ↔
      ∃ child ∈ tree.elementChildren id, child ∈ select tree here id := by
  have scope {left : NodeId} : left ∈ select tree .scope id ↔ left = id := by
    rw [mem_select wf, wf.mem_documentOrder]
    simp only [Condition.holds, beq_iff_eq]
    exact ⟨And.right, fun e => ⟨.inl e, e⟩⟩
  rw [has_holds_iff wf]
  simp only [mem_select_combine wf, scope, exists_eq_left, wf.mem_elementChildren,
    Combinator.Relates]
  refine exists_congr fun child => ?_
  constructor
  · rintro ⟨⟨found, link⟩, differ⟩
    have place := wf.mem_documentOrder.1 ((mem_select wf).1 found).1
    exact ⟨⟨link, (place.resolve_left differ).2⟩, found⟩
  · rintro ⟨⟨link, -⟩, found⟩
    refine ⟨⟨found, link⟩, ?_⟩
    rintro rfl
    exact wf.acyclic child (.single link)

/-- An element meets `has` exactly if the search from this element finds something else than the
element, wherever the search around it starts.  With a compound behind the sign for a child, that is
an element child which the search for the compound finds.  Between the brackets of `has` this is
read exactly if the round brackets of the compound balance, those in square brackets included, and
otherwise nothing is. -/
theorem has_iff_select (wf : WellFormed tree) (id : NodeId) :
    (∀ inner root, (Condition.has inner).holds tree root id ↔
      ∃ found ∈ select tree inner id, found ≠ id) ∧
    (∀ inner root root', (Condition.has inner).holds tree root id =
      (Condition.has inner).holds tree root' id) ∧
    ∀ compound text offset,
      (Cursor.start 0 compound).tokens.1 = .ok [.compound text offset] → (parse compound).isOk →
      ∃ inner found, parse ("> ".toList ++ compound) = .ok inner ∧
        selectText tree compound id = .ok found ∧
        (∀ root, (Condition.has inner).holds tree root id ↔
          ∃ child ∈ tree.elementChildren id, child ∈ found) ∧
        ∀ condition, parse (":has(> ".toList ++ compound ++ [')']) = .ok condition ↔
          Balanced .round compound ∧ condition = .has inner := by
  refine ⟨fun inner root => has_holds_iff wf, fun inner root root' => ?_, ?_⟩
  · rw [Bool.eq_iff_iff, has_holds_iff wf, has_holds_iff wf]
  · intro compound text offset single parsed
    obtain ⟨here, parsed⟩ := isOk_iff.1 parsed
    let part : Part := ⟨compound, text, offset, here, single, parsed⟩
    exact ⟨_, _, part.parse_child, selectText_of_parse parsed, fun root => has_child_holds_iff wf,
      fun condition => part.parse_has_child_iff⟩

end

attribute [local instance] Pattern.engine

/-- A list has an item without a class, wherever the search starts.  That the list is without a
class itself does not count. -/
theorem has_item_without_class :
    WellFormed twoItems ∧
    (Cursor.start 0 " :not([class])".toList).tokens.1 = .ok [.compound ":not([class])".toList 1] ∧
    (parse " :not([class])".toList).isOk ∧
    ∃ inner, parse ":has(>  :not([class]))".toList = .ok (.has inner) ∧
      (∀ root, (Condition.has inner).holds twoItems root 1) ∧
      ∀ root, ¬ (Condition.has inner).holds twoItems root 2 := by
  have single : (Cursor.start 0 " :not([class])".toList).tokens.1 =
      .ok [.compound ":not([class])".toList 1] := by decide +kernel
  have parsed : (parse " :not([class])".toList).isOk := by decide +kernel
  have closed : Parenthesized " :not([class])".toList := by decide +kernel
  obtain ⟨inner, found, sign, searched, child, whole⟩ :=
    (has_iff_select wellFormed_twoItems 1).2.2 _ _ _ single parsed
  obtain ⟨inner', found', sign', searched', child', -⟩ :=
    (has_iff_select wellFormed_twoItems 2).2.2 _ _ _ single parsed
  cases sign.symm.trans sign'
  have all : (selectText twoItems " :not([class])".toList 1).toOption = some [1, 2, 4] := by
    decide +kernel
  rw [searched] at all
  cases all
  refine ⟨wellFormed_twoItems, single, parsed, inner, (whole _).2 ⟨closed.balanced, rfl⟩, ?_, ?_⟩
  · intro root
    exact (child root).2 ⟨2, by decide, by decide⟩
  · intro root inside
    obtain ⟨item, member, -⟩ := (child' root).1 inside
    have none : twoItems.elementChildren 2 = [] := by decide
    rw [none] at member
    cases member

/-- The round bracket is a value in one selector, and ends the argument in the other. -/
example : (parse "[a=)]".toList).isOk ∧ ¬ (parse ":has(> [a=)])".toList).isOk := by decide +kernel

end TreeQuery.Selector
