import TreeQuery.Pattern.Basic
import TreeQuery.Proofs.Selector.Rendering

/-!
# Alternatives

A comma binds less than anything else in a selector: what stands before it and what stands after it
are selectors of their own, and the alternatives of the whole are those of the one and those of the
other.  Main statement: `parse_comma`.
-/

namespace TreeQuery.Selector

/-! ### Tokens -/

namespace Cursor

/-- A comma ends every token, as it is neither white space nor part of a compound. -/
lemma endsToken_comma (afterCompound : Bool) (t : Text) : EndsToken afterCompound (',' :: t) := by
  refine ⟨fun c first => ?_, .inr (List.takeWhile_cons_of_neg (by decide))⟩
  cases first
  decide

/-- The tokens of two texts with a comma between them: those of the first text, the comma, and those
of the second text. -/
lemma tokens_comma {base : Nat} {s : Text} {tokens : List Token}
    (h : (start base s).tokens.1 = .ok tokens) (t : Text) :
    ∃ o base', (start base (s ++ ',' :: t)).tokens.1 =
      (start base' t).tokens.1.map fun later => tokens ++ .separator .comma o :: later := by
  obtain ⟨reached, reads, ended⟩ := exists_readsTokens h
  have longer := reads.followedBy (endsToken_comma _ t)
  have blank : Blank reached.rest := List.dropWhile_eq_nil_iff.1 ended
  obtain ⟨o, base', comma⟩ : ∃ o base', (reached.followedBy (',' :: t)).tokens.1 =
      (start base' t).tokens.1.map (.separator .comma o :: ·) :=
    ⟨_, _, tokens_of_mark (by decide : Separator.comma ≠ _) blank reached.offset⟩
  refine ⟨o, base', longer.tokens_eq.trans ?_⟩
  rw [comma]
  cases (start base' t).tokens.1 <;> rfl

end Cursor

section

variable [PatternEngine]

/-! ### Progress -/

namespace Progress

variable {nested : Nested} {query : Query} {progress progress' : Progress}

/-- The progress of a selector that stands after other alternatives and a comma. -/
def behind (front : List Condition) (comma : Nat) (progress : Progress) : Progress :=
  ⟨front ++ progress.finished, progress.chain, some (progress.comma.getD comma)⟩

/-- What was finished before a token stays as it is. -/
lemma step_behind (front : List Condition) (comma : Nat) (token : Token) :
    (progress.behind front comma).step nested query token =
      (progress.step nested query token).map (behind front comma) := by
  cases token with
  | compound text offset =>
    unfold step
    dsimp only [behind]
    cases progress.chain.compound nested text offset <;> rfl
  | separator mark offset =>
    cases mark with
    | combinator k =>
      unfold step
      dsimp only [behind]
      cases progress.chain.combinator query k offset <;> rfl
    | comma =>
      unfold step
      dsimp only [behind]
      cases progress.chain.finish offset with
      | error e => rfl
      | ok condition => simp [Except.map, behind]

/-- Alternatives in front are kept as they are while later tokens are read. -/
lemma foldlM_behind (front : List Condition) (comma : Nat) (tokens : List Token) :
    tokens.foldlM (step nested query) (progress.behind front comma) =
      (tokens.foldlM (step nested query) progress).map (behind front comma) := by
  induction tokens generalizing progress with
  | nil => rfl
  | cons token tokens ih =>
    rw [List.foldlM_cons, List.foldlM_cons, step_behind]
    cases progress.step nested query token with
    | error e => rfl
    | ok middle => exact ih

/-- The alternatives before a comma are collected, and those after it as if they stood alone. -/
lemma foldlM_comma_eq_ok_iff {tokens later : List Token} {o : Nat} :
    (tokens ++ .separator .comma o :: later).foldlM (step nested query) progress = .ok progress' ↔
      ∃ left last right, tokens.foldlM (step nested query) progress = .ok left ∧
        left.chain = .complete last ∧ later.foldlM (step nested query) start = .ok right ∧
        progress' = right.behind (left.finished ++ [last]) o := by
  have collected (left : Progress) (last : Condition) :
      (⟨left.finished ++ [last], .start, some o⟩ : Progress) =
        start.behind (left.finished ++ [last]) o := by
    simp [start, behind]
  simp only [foldlM_append_eq_ok_iff, foldlM_cons_eq_ok_iff, step_comma_eq_ok_iff, collected]
  constructor
  · intro h
    obtain ⟨left, folded, _, ⟨last, complete, rfl⟩, more⟩ := h
    rw [foldlM_behind] at more
    obtain ⟨right, folded', rfl⟩ := map_eq_ok_iff.1 more
    exact ⟨left, last, right, folded, complete, folded', rfl⟩
  · intro h
    obtain ⟨left, last, right, folded, complete, folded', rfl⟩ := h
    refine ⟨left, folded, _, ⟨last, complete, rfl⟩, ?_⟩
    rw [foldlM_behind]
    exact map_eq_ok_iff.2 ⟨right, folded', rfl⟩

/-- The alternatives of a selector after others: none of them gets lost in a disjunction. -/
lemma Single.anyOf_behind {left right : Progress} {last last' : Condition} (single : left.Single)
    (complete : left.chain = .complete last) (single' : right.Single)
    (complete' : right.chain = .complete last') (o : Nat) :
    Condition.anyOf ((right.behind (left.finished ++ [last]) o).finished ++ [last']) =
      .any ((Condition.anyOf (left.finished ++ [last])).alternatives ++
        (Condition.anyOf (right.finished ++ [last'])).alternatives) := by
  rw [single.alternatives complete, single'.alternatives complete',
    ← Condition.anyOf_append (by simp) (by simp)]
  exact congrArg Condition.anyOf (List.append_assoc ..)

end Progress

/-! ### Selectors -/

/-- Two texts with a comma between them make a selector if both of them do, provided that the first
one can be split into tokens.  The alternatives of the whole are those of the first one and then
those of the second one. -/
theorem parse_comma {s : Text} {tokens : List Token}
    (read : (Cursor.start 0 s).tokens.1 = .ok tokens) (t : Text) (condition : Condition) :
    parse (s ++ ',' :: t) = .ok condition ↔ ∃ left right,
      parse s = .ok left ∧ parse t = .ok right ∧
      condition = .any (left.alternatives ++ right.alternatives) := by
  obtain ⟨o, base, joined⟩ := Cursor.tokens_comma read t
  have compiles (base : Nat) {text : Text} {condition : Condition} :=
    @parse_eq_ok_iff _ base ⟨s ++ ',' :: t, 0⟩ text condition
  constructor
  · intro parsed
    obtain ⟨_, _, last', split, whole, complete', rfl⟩ := (compiles 0).1 parsed
    rw [joined] at split
    obtain ⟨later, read', rfl⟩ := map_eq_ok_iff.1 split
    obtain ⟨left, last, right, folded, complete, folded', rfl⟩ :=
      Progress.foldlM_comma_eq_ok_iff.1 whole
    refine ⟨_, _, (compiles 0).2 ⟨tokens, left, last, read, folded, complete, rfl⟩,
      (compiles base).2 ⟨later, right, last', read', folded', complete', rfl⟩, ?_⟩
    exact (Progress.single_start.foldlM folded).anyOf_behind complete
      (Progress.single_start.foldlM folded') complete' o
  · intro h
    obtain ⟨_, _, parsed, parsed', rfl⟩ := h
    obtain ⟨_, left, last, again, folded, complete, rfl⟩ := (compiles 0).1 parsed
    cases read.symm.trans again
    obtain ⟨later, right, last', read', folded', complete', rfl⟩ := (compiles base).1 parsed'
    refine (compiles 0).2 ⟨_, right.behind (left.finished ++ [last]) o, last', ?_,
      Progress.foldlM_comma_eq_ok_iff.2 ⟨left, last, right, folded, complete, folded', rfl⟩,
      complete', ?_⟩
    · rw [joined, read']
      rfl
    · exact ((Progress.single_start.foldlM folded).anyOf_behind complete
        (Progress.single_start.foldlM folded') complete' o).symm

end

attribute [local instance] Pattern.engine

/-- Commas in brackets and quotes separate nothing: there is one alternative in front of the comma,
and there are two behind it. -/
theorem parse_comma_items :
    (Cursor.start 0 "> ol li:not(.a, .b)[id=\",\"] ".toList).tokens.1 = .ok [
      .separator (.combinator .child) 0, .compound "ol".toList 2,
      .separator (.combinator .descendant) 4,
      .compound "li:not(.a, .b)[id=\",\"]".toList 5] ∧
    ∃ left right,
      parse "> ol li:not(.a, .b)[id=\",\"] ".toList = .ok left ∧
      parse "ul, #a+ b".toList = .ok right ∧
      left.alternatives = [.all [
        .all [.tag "li".toList, .not (.any [.hasClass ['a'], .hasClass ['b']]),
          .attributeValue "id".toList .equals [',']],
        .related .descendant (.all [.tag "ol".toList, .related .child .scope])]] ∧
      right.alternatives =
        [.tag "ul".toList, .all [.tag ['b'], .related .nextSibling (.id ['a'])]] ∧
      parse "> ol li:not(.a, .b)[id=\",\"] ,ul, #a+ b".toList =
        .ok (.any (left.alternatives ++ right.alternatives)) := by
  have read : (Cursor.start 0 "> ol li:not(.a, .b)[id=\",\"] ".toList).tokens.1 = .ok [
      .separator (.combinator .child) 0, .compound "ol".toList 2,
      .separator (.combinator .descendant) 4,
      .compound "li:not(.a, .b)[id=\",\"]".toList 5] := by decide +kernel
  have parsed : parse "> ol li:not(.a, .b)[id=\",\"] ".toList = .ok (.all [
      .all [.tag "li".toList, .not (.any [.hasClass ['a'], .hasClass ['b']]),
        .attributeValue "id".toList .equals [',']],
      .related .descendant (.all [.tag "ol".toList, .related .child .scope])]) := by
    with_unfolding_all rfl
  have parsed' : parse "ul, #a+ b".toList =
      .ok (.any [.tag "ul".toList, .all [.tag ['b'], .related .nextSibling (.id ['a'])]]) := by
    with_unfolding_all rfl
  exact ⟨read, _, _, parsed, parsed', rfl, rfl,
    (parse_comma read "ul, #a+ b".toList _).2 ⟨_, _, parsed, parsed', rfl⟩⟩

end TreeQuery.Selector
