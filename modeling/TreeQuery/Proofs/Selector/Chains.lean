import TreeQuery.Pattern.Basic
import TreeQuery.Proofs.Selector.Rendering

/-!
# Chains of compounds

Compounds with combinators between them fold to the left: each compound stands together with a
condition on everything before it, however many there are and however the combinators are written.
A combinator in front of the first one relates it to the root of the search.  Main statement:
`parse_chain`.
-/

namespace TreeQuery.Selector

/-! ### Joints -/

/-- How a combinator is written: as its own character with any white space around it or, if it has
none, as white space. -/
inductive Joint : Combinator → Text → Prop where
  | mark {k : Combinator} {before after : Text} :
    k ≠ .descendant → Blank before → Blank after →
    Joint k (before ++ (Separator.combinator k).toChar :: after)
  | descent {run : Text} : Blank run → run ≠ [] → Joint .descendant run

/-- A combinator of its own character is not the descendant separator. -/
lemma Separator.combinator_ne {k : Combinator} (own : k ≠ .descendant) :
    Separator.combinator k ≠ .combinator .descendant :=
  fun e => own (Separator.combinator.inj e)

/-- The character of a combinator by itself is a joint. -/
lemma joint_toChar (k : Combinator) : Joint k [(Separator.combinator k).toChar] := by
  by_cases descends : k = .descendant
  · subst descends
    exact .descent (List.forall_mem_singleton.2 (by decide)) (List.cons_ne_nil _ _)
  · exact @Joint.mark k [] [] descends nofun nofun

/-- No compound goes on with what a combinator is written as. -/
lemma Joint.stops {k : Combinator} {joint : Text} (h : Joint k joint) (v : Text) :
    Stops (joint ++ v) := by
  cases h with
  | @mark _ before after own blank =>
    rw [List.append_assoc]
    exact stops_of_mark (Separator.combinator_ne own) blank
  | descent blank nonempty => exact stops_of_blank blank nonempty

namespace Cursor

variable {gap joint right text : Text} {k : Combinator} {after : Bool} {offset : Nat}

/-- White space in front of a text does not matter for its tokens. -/
lemma tokens_of_gap (blank : Blank gap) (base : Nat) (t : Text) :
    (start base (gap ++ t)).tokens.1 = (start (base + Text.byteLength gap) t).tokens.1 := by
  have same :
      (start base (gap ++ t)).blanks.2 = (start (base + Text.byteLength gap) t).blanks.2 := by
    simp [blanks, takeWhile, start, past, List.takeWhile_append_of_pos blank,
      List.dropWhile_append_of_pos blank, Nat.add_assoc]
  rw [← tokens_blanks rfl, same, tokens_blanks rfl]

/-- After white space a combinator is read however it is written, and so is a compound behind it.
Descent is read after another compound only. -/
lemma tokens_of_joint (blank : Blank gap) (joins : Joint k joint)
    (compound : k = .descendant → after = true)
    (single : (start 0 right).tokens.1 = .ok [.compound text offset]) (base : Nat) :
    ∃ o o', (⟨base, gap ++ (joint ++ right), after⟩ : Cursor).tokens.1 =
      .ok [.separator (.combinator k) o, .compound text o'] := by
  cases joins with
  -- The white space behind the character is as good as white space in front of the compound.
  | @mark _ front back own blank' blank'' =>
    have gap_blank : Blank (gap ++ front) := List.forall_mem_append.2 ⟨blank, blank'⟩
    have split : gap ++ (front ++ (Separator.combinator k).toChar :: back ++ right) =
        gap ++ front ++ (Separator.combinator k).toChar :: (back ++ right) := by simp
    have behind (b : Nat) : (start b (back ++ right)).tokens.1 = _ := tokens_of_gap blank'' b right
    rw [split, tokens_of_mark (Separator.combinator_ne own) gap_blank]
    obtain ⟨o', moved⟩ := tokens_moved single _
    exact ⟨_, o', map_eq_ok_iff.2 ⟨_, (behind _).trans moved, rfl⟩⟩
  -- All white space up to the compound makes one token, that in front of `right` included.
  | descent blank' nonempty =>
    cases compound rfl
    obtain ⟨_, next, -⟩ := exists_next_of_tokens single
    obtain ⟨c, rest, _, first, plain, -⟩ := exists_compound_of_next next
    obtain ⟨front, rfl, blank''⟩ := exists_gap first
    have goesOn : ¬ isStop c := not_isStop_iff.2 ⟨blanks_stop first, plain⟩
    rw [tokens_of_gap blank''] at single
    have gap_blank : Blank (gap ++ joint ++ front) :=
      List.forall_mem_append.2 ⟨List.forall_mem_append.2 ⟨blank, blank'⟩, blank''⟩
    have split : gap ++ (joint ++ (front ++ c :: rest)) = gap ++ joint ++ front ++ c :: rest := by
      simp
    rw [split, tokens_of_descent gap_blank (by simp [nonempty]) goesOn]
    obtain ⟨o', moved⟩ := tokens_moved single _
    exact ⟨_, o', map_eq_ok_iff.2 ⟨_, moved, rfl⟩⟩

end Cursor

section

variable [PatternEngine]

/-! ### Links -/

/-- A selector of one compound. -/
structure Part where
  written : Text
  /-- The compound without the white space around it. -/
  text : Text
  /-- Where the compound starts. -/
  offset : Nat
  condition : Condition
  single : (Cursor.start 0 written).tokens.1 = .ok [.compound text offset]
  parsed : parse written = .ok condition

/-- A selector of one compound to the right of a combinator. -/
structure Link extends Part where
  combinator : Combinator
  /-- What the combinator is written as. -/
  joint : Text
  joins : Joint combinator joint

namespace Link

/-- The link is written after what stands before it. -/
def writtenAfter (before : Text) (link : Link) : Text := before ++ (link.joint ++ link.written)

/-- Its compound holds, and it is related to something that meets `left`. -/
def relatedTo (left : Condition) (link : Link) : Condition :=
  .all [link.condition, .related link.combinator left]

end Link

/-- A selector with a single alternative, which is complete at its end. -/
def Completes (selector : Text) (condition : Condition) : Prop :=
  ∃ tokens, (Cursor.start 0 selector).tokens.1 = .ok tokens ∧
    tokens.foldlM (Progress.step parseAt ⟨[], 0⟩) .start = .ok ⟨[], .complete condition, none⟩

/-- A selector that completes a condition parses as it. -/
lemma Completes.parse_eq {selector : Text} {condition : Condition}
    (h : Completes selector condition) : parse selector = .ok condition := by
  obtain ⟨tokens, read, folded⟩ := h
  exact (parse_eq_ok_iff 0 ⟨[], 0⟩).2 ⟨tokens, _, condition, read, folded, rfl, rfl⟩

/-- A selector without commas has a single alternative. -/
lemma completes_of_parse {selector : Text} {tokens : List Token} {condition : Condition}
    (read : (Cursor.start 0 selector).tokens.1 = .ok tokens)
    (alone : ∀ o, .separator .comma o ∉ tokens) (parsed : parse selector = .ok condition) :
    Completes selector condition := by
  obtain ⟨_, progress, last, again, folded, complete, rfl⟩ := (parse_eq_ok_iff 0 ⟨[], 0⟩).1 parsed
  cases read.symm.trans again
  have whole := Progress.foldlM_alone alone folded
  rw [complete] at whole
  cases whole
  exact ⟨tokens, read, folded⟩

/-- A part of a chain is a selector in its own right. -/
lemma Part.completes (part : Part) : Completes part.written part.condition :=
  completes_of_parse part.single (by simp) part.parsed

/-- A combinator and a compound relate what is complete before them, or the root of the search. -/
lemma Link.foldlM_eq (link : Link) {chain : Chain} {left : Condition}
    (front : chain = .start ∧ left = .scope ∨ chain = .complete left) (o o' : Nat) :
    [.separator (.combinator link.combinator) o, .compound link.text o'].foldlM
        (Progress.step parseAt ⟨[], 0⟩) ⟨[], chain, none⟩ =
      .ok ⟨[], .complete (link.relatedTo left), none⟩ := by
  have waits : chain.combinator ⟨[], 0⟩ link.combinator o =
      .ok (.awaiting left link.combinator o) := Chain.combinator_eq_ok_iff.2 ⟨left, front, rfl⟩
  have read : Compound.read parseAt link.text o' = .ok link.condition :=
    compound_read_moved ((parse_of_tokens link.single).symm.trans link.parsed) o'
  refine foldlM_cons_eq_ok_iff.2 ⟨_, map_eq_ok_iff.2 ⟨_, waits, rfl⟩, ?_⟩
  refine foldlM_cons_eq_ok_iff.2 ⟨_, map_eq_ok_iff.2 ⟨_, ?_, rfl⟩, rfl⟩
  rw [Chain.compound_awaiting, read]
  rfl

/-- A link by itself is complete, unless it descends, and it is related to the root of the search.
-/
lemma Link.completes (link : Link) (own : link.combinator ≠ .descendant) :
    Completes (link.joint ++ link.written) (link.relatedTo .scope) := by
  obtain ⟨o, o', read⟩ :=
    @Cursor.tokens_of_joint [] _ _ _ _ false _ nofun link.joins (absurd · own) link.single 0
  exact ⟨_, read, link.foldlM_eq (.inl ⟨rfl, rfl⟩) o o'⟩

/-- A link behind a complete selector relates its compound to what stands before it. -/
lemma Completes.link {selector : Text} {condition : Condition} (h : Completes selector condition)
    (link : Link) : Completes (link.writtenAfter selector) (link.relatedTo condition) := by
  obtain ⟨tokens, read, folded⟩ := h
  -- What is complete ends with a compound, so the joint ends its last token, and all that is left
  -- of the selector is white space in front of the joint.
  obtain ⟨before, text, offset, rfl⟩ := Progress.exists_compound_of_complete folded rfl
  obtain ⟨reached, reads, ended⟩ := Cursor.exists_readsTokens read
  have blank : Blank reached.rest := List.dropWhile_eq_nil_iff.1 ended
  have longer := reads.followedBy
    ⟨link.joins.stops link.written, .inl reads.afterCompound⟩
  obtain ⟨o, o', later⟩ := Cursor.tokens_of_joint blank link.joins (fun _ => reads.afterCompound)
    link.single reached.offset
  refine ⟨_, longer.tokens_eq.trans (map_eq_ok_iff.2 ⟨_, later, rfl⟩), ?_⟩
  exact foldlM_append_eq_ok_iff.2 ⟨_, folded, link.foldlM_eq (.inr rfl) o o'⟩

/-- Several links are related one after the other, from the left. -/
lemma Completes.links {selector : Text} {condition : Condition} (h : Completes selector condition)
    (links : List Link) :
    Completes (links.foldl Link.writtenAfter selector) (links.foldl Link.relatedTo condition) := by
  induction links generalizing selector condition with
  | nil => exact h
  | cons link links ih => exact ih (h.link link)

/-! ### Chains -/

/-- A selector, a combinator and a compound that are written one after the other make a selector,
which asks for the compound and relates to the selector before it. -/
theorem parse_join {left right text : Text} {tokens : List Token} {offset : Nat}
    {before here : Condition} (k : Combinator)
    (read : (Cursor.start 0 left).tokens.1 = .ok tokens)
    (alone : ∀ o, .separator .comma o ∉ tokens)
    (read' : (Cursor.start 0 right).tokens.1 = .ok [.compound text offset])
    (parsed : parse left = .ok before) (parsed' : parse right = .ok here) :
    parse (left ++ (Separator.combinator k).toChar :: right) = .ok (before.combine k here) :=
  ((completes_of_parse read alone parsed).link
    ⟨⟨right, text, offset, here, read', parsed'⟩, k, _, joint_toChar k⟩).parse_eq

/-- A chain of compounds is parsed from left to right: each compound holds, and it is related to
something that the chain before it asks for.  If a combinator is written in front of the first one,
that one is related to the root of the search. -/
theorem parse_chain (links : List Link) :
    (∀ first : Part, parse (links.foldl Link.writtenAfter first.written) =
      .ok (links.foldl Link.relatedTo first.condition)) ∧
    ∀ first : Link, first.combinator ≠ .descendant →
      parse (links.foldl Link.writtenAfter (first.joint ++ first.written)) =
        .ok (links.foldl Link.relatedTo (first.relatedTo .scope)) :=
  ⟨fun first => (first.completes.links links).parse_eq,
    fun first own => ((first.completes own).links links).parse_eq⟩

end

attribute [local instance] Pattern.engine

/-- A chain with a combinator in front, white space of all kinds, and combinators in brackets that
are none of the chain. -/
theorem parse_chain_led :
    ∃ outer middle inner, parse "ol:not(p ~ q)".toList = .ok outer ∧
      parse "li[é='>']".toList = .ok middle ∧ parse " .a ".toList = .ok inner ∧
      parse "\t+ol:not(p ~ q) \nli[é='>']\n~ .a ".toList =
        .ok (.all [inner, .related .subsequentSibling (.all [middle, .related .descendant
          (.all [outer, .related .nextSibling .scope])])]) := by
  obtain ⟨outer, parsed⟩ := isOk_iff.1 (show (parse "ol:not(p ~ q)".toList).isOk by decide +kernel)
  obtain ⟨middle, parsed'⟩ := isOk_iff.1 (show (parse "li[é='>']".toList).isOk by decide +kernel)
  obtain ⟨inner, parsed''⟩ := isOk_iff.1 (show (parse " .a ".toList).isOk by decide +kernel)
  have single : (Cursor.start 0 "ol:not(p ~ q)".toList).tokens.1 =
      .ok [.compound "ol:not(p ~ q)".toList 0] := by decide +kernel
  have single' : (Cursor.start 0 "li[é='>']".toList).tokens.1 =
      .ok [.compound "li[é='>']".toList 0] := by decide +kernel
  have single'' : (Cursor.start 0 " .a ".toList).tokens.1 = .ok [.compound ".a".toList 1] := by
    decide +kernel
  have led : Joint .nextSibling "\t+".toList :=
    @Joint.mark .nextSibling ['\t'] [] (by decide) (List.forall_mem_singleton.2 (by decide)) nofun
  have below : Joint .descendant " \n".toList :=
    .descent (List.all_eq_true.1 (by decide)) (List.cons_ne_nil _ _)
  have later : Joint .subsequentSibling "\n~".toList :=
    @Joint.mark .subsequentSibling ['\n'] [] (by decide) (List.forall_mem_singleton.2 (by decide))
      nofun
  exact ⟨outer, middle, inner, parsed, parsed', parsed'',
    (parse_chain [⟨⟨_, _, _, middle, single', parsed'⟩, .descendant, _, below⟩,
      ⟨⟨_, _, _, inner, single'', parsed''⟩, .subsequentSibling, _, later⟩]).2
      ⟨⟨_, _, _, outer, single, parsed⟩, .nextSibling, _, led⟩ nofun⟩

end TreeQuery.Selector
