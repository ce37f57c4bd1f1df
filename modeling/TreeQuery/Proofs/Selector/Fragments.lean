import TreeQuery.Pattern.Basic
import TreeQuery.Proofs.Selector.Rereading

/-!
# What is quoted of an unexpected token

A token is unexpected where no simple selector can be read, or where a combinator follows another
one.  The error quotes what stands there, up to the end of the compound or of the selector.  Only
where a colon has no name behind it the quote leaves the colon out, though the offset is that of the
colon.  Main statements: `parse_unexpected_iff` and `unexpected_quoted`.
-/

namespace TreeQuery

/-! ### Parts of a text -/

namespace Text.StandsAt

variable {whole s t : Text} {offset : Nat} {c d : Char}

/-- Without the bytes in front of its place a whole goes on with the text that stands there. -/
lemma exists_dropBytes (h : StandsAt t offset whole) :
    ∃ after, dropBytes offset whole = t ++ after := by
  obtain ⟨before, after, rfl, rfl⟩ := h
  exact ⟨after, by rw [List.append_assoc, dropBytes_byteLength_append]⟩

/-- Only one character stands at a place. -/
lemma head_eq (h : StandsAt (c :: s) offset whole) (h' : StandsAt (d :: t) offset whole) :
    c = d := by
  obtain ⟨after, split⟩ := h.exists_dropBytes
  obtain ⟨after', split'⟩ := h'.exists_dropBytes
  exact (List.cons.inj (split.symm.trans split')).1

/-- A text that stands behind a character stands at its place too only if it repeats it. -/
lemma iff_of_cons (h : StandsAt (c :: t) offset whole) :
    StandsAt t offset whole ↔ ∀ d ∈ t, d = c := by
  constructor
  · intro here
    obtain ⟨after, split⟩ := h.exists_dropBytes
    obtain ⟨after', split'⟩ := here.exists_dropBytes
    have same : c :: t ++ after = t ++ after' := split.symm.trans split'
    clear h here split split'
    induction t generalizing after with
    | nil => nofun
    | cons d t ih =>
      obtain ⟨rfl, later⟩ := List.cons.inj same
      exact List.forall_mem_cons.2 ⟨rfl, ih after later⟩
  · intro all
    obtain ⟨before, after, rfl, place⟩ := h
    have turned : t ++ [c] = c :: t := by
      rw [List.eq_replicate_of_mem all, ← List.replicate_succ', List.replicate_succ]
    exact ⟨before, c :: after, by simp [← turned], place⟩

end Text.StandsAt

namespace Selector
open Relation (ReflTransGen)
open Text (StandsAt)

variable {query : Query} {left : Side} {t fragment : Text} {offset : Nat}

/-! ### Quotes -/

/-- What a cursor quotes stands where it says, or a colon is left out in front of it. -/
lemma Cursor.Stumbles.quotes {whole : Text} {cursor : Cursor} (h : cursor.Stumbles fragment)
    (stands : cursor.StandsIn whole) :
    (∃ c t, fragment = c :: t ∧ c ≠ ':' ∧ StandsAt (c :: t) cursor.offset whole) ∨
      StandsAt (':' :: fragment) cursor.offset whole := by
  unfold StandsIn at stands
  cases h with
  | @mark c rest first known =>
    refine .inl ⟨c, rest, first, ?_, first ▸ stands⟩
    rcases known with rfl | rfl <;> decide
  | colon first => exact .inr (first ▸ stands)
  | @other c rest first other =>
    refine .inl ⟨c, rest, first, ?_, first ▸ stands⟩
    rintro rfl
    exact other (by decide)

/-- A combinator is written as white space or as a character of its own, which is no colon. -/
lemma Token.Writes.exists_cons {k : Combinator} {o : Nat} {written : Text}
    (h : (Token.separator (.combinator k) o).Writes written) :
    ∃ c t, written = c :: t ∧ c ≠ ':' := by
  cases h with
  | mark own =>
    refine ⟨_, [], rfl, fun colon => ?_⟩
    have member := mem_of_ne_descent own
    rw [colon] at member
    exact absurd member (by decide)
  | descent blank nonempty =>
    obtain ⟨c, t, rfl⟩ := List.exists_cons_of_ne_nil nonempty
    refine ⟨c, t, rfl, ?_⟩
    rintro rfl
    exact absurd (blank ':' (.head _)) (by decide)

/-! ### Tokens in a rendering -/

/-- Every token of a rendering is written where its offset says. -/
lemma Rendering.exists_written {before later : List Token} {token : Token}
    (h : Rendering left offset (before ++ token :: later) t) (here : query.Leaves offset t) :
    ∃ written rest, token.Writes written ∧ query.Leaves token.offset (written ++ rest) := by
  induction before generalizing left offset t with
  | nil =>
    cases h with
    | cons _ _ _ place writes _ =>
      rw [List.append_assoc] at here
      exact ⟨_, _, writes, place ▸ here.drop⟩
  | cons _ before ih =>
    cases h with
    | cons _ _ _ place writes later =>
      rw [List.append_assoc] at here
      exact ih later (place ▸ here.drop).drop

section

variable [PatternEngine] {nested : Nested}

/-- A compound does not follow a complete alternative. -/
lemma Rendering.ne_complete {before later : List Token} {text : Text} {o : Nat}
    {progress middle : Progress}
    (h : Rendering left offset (before ++ .compound text o :: later) t)
    (run : before.foldlM (Progress.step nested query) progress = .ok middle)
    (last : ∀ condition, progress.chain = .complete condition → left = .compound)
    (condition : Condition) : middle.chain ≠ .complete condition := by
  induction before generalizing left offset t progress with
  | nil =>
    cases run
    intro complete
    cases h with
    | cons meets =>
      rw [last condition complete] at meets
      cases meets
  | cons token before ih =>
    obtain ⟨next, step, run⟩ := foldlM_cons_eq_ok_iff.1 run
    cases h with
    | cons _ _ _ _ _ later =>
      refine ih later run fun condition complete => ?_
      match token with
      | .compound text offset => rfl
      | .separator (.combinator k) offset =>
        obtain ⟨chain, awaits, rfl⟩ := map_eq_ok_iff.1 step
        obtain ⟨_, -, rfl⟩ := Chain.combinator_eq_ok_iff.1 awaits
        cases complete
      | .separator .comma offset =>
        obtain ⟨_, -, rfl⟩ := Progress.step_comma_eq_ok_iff.1 step
        cases complete

/-! ### Selectors -/

/-- Reading the selector comes to a token that is unexpected: a compound in which the reader of
simple selectors stumbles, or a combinator that follows another one. -/
inductive Query.Stumbles (query : Query) : Text → Nat → Prop where
  | simple {before later : List Token} {text fragment : Text} {offset : Nat} {progress : Progress}
      {cursor : Cursor} :
    (Cursor.start query.base query.text).tokens.1 = .ok (before ++ .compound text offset :: later) →
    before.foldlM (Progress.step parseAt query) .start = .ok progress →
    Compound.Reaches parseAt (.start offset text) cursor → cursor.Stumbles fragment →
    Stumbles query fragment cursor.offset
  | combinator {before later : List Token} {k k' : Combinator} {offset o : Nat}
      {progress : Progress} {condition : Condition} :
    (Cursor.start query.base query.text).tokens.1 =
      .ok (before ++ .separator (.combinator k) offset :: later) →
    before.foldlM (Progress.step parseAt query) .start = .ok progress →
    progress.chain = .awaiting condition k' o → Stumbles query (query.textFrom offset) offset

/-- The end of a selector is never an unexpected token. -/
lemma Chain.finish_ne_unexpected {chain : Chain} {anchor : Nat} :
    chain.finish anchor ≠ .error ⟨.unexpected fragment, offset⟩ := by
  cases chain <;> nofun

/-- Neither is it where several alternatives have been read. -/
lemma Progress.finish_ne_unexpected {progress : Progress} {base : Nat} :
    progress.finish base ≠ .error ⟨.unexpected fragment, offset⟩ := by
  intro h
  unfold finish at h
  split at h
  · cases h
  · cases h
  · exact Chain.finish_ne_unexpected (map_eq_error_iff.1 h)

/-- A token is unexpected in a compound, or if it is a combinator and another one waits. -/
lemma Progress.step_unexpected {progress : Progress} {token : Token}
    (met : ∀ text o, token = .compound text o →
      ∀ condition, progress.chain ≠ .complete condition)
    (h : progress.step nested query token = .error ⟨.unexpected fragment, offset⟩) :
    (∃ text o, token = .compound text o ∧
      Compound.read nested text o = .error ⟨.unexpected fragment, offset⟩) ∨
    ∃ k condition k' o, token = .separator (.combinator k) offset ∧
      progress.chain = .awaiting condition k' o ∧ fragment = query.textFrom offset := by
  match token with
  | .compound text o =>
    replace h := map_eq_error_iff.1 h
    unfold Chain.compound at h
    split at h
    · rename_i failed
      cases h
      exact .inl ⟨text, o, rfl, failed⟩
    · split at h
      · cases h
      · cases h
      · rename_i condition complete
        exact absurd complete (met text o rfl condition)
  | .separator (.combinator k) o =>
    replace h := map_eq_error_iff.1 h
    unfold Chain.combinator at h
    split at h <;> cases h
    rename_i condition k' o' waits
    exact .inr ⟨k, condition, k', o', rfl, waits, rfl⟩
  | .separator .comma o => exact absurd (map_eq_error_iff.1 h) Chain.finish_ne_unexpected

/-- A selector that stumbles is refused for the token that it stumbles over. -/
lemma Query.Stumbles.parseAt_eq (h : query.Stumbles fragment offset) :
    parseAt query.text query.base = .error ⟨.unexpected fragment, offset⟩ := by
  cases h with
  | simple read run reaches stumbles =>
    have rendering : Rendering .edge query.base _ query.text := rendering_of_start read
    have compound := rendering.compoundText (List.mem_append_right _ (.head _))
    exact parseAt_of_read read run
      ((Compound.read_formal_iff compound (.inr rfl)).2 ⟨_, reaches, .inl ⟨_, stumbles, rfl⟩⟩)
  | combinator read run waits =>
    refine parseAt_of_step read run (map_eq_error_iff.2 ?_)
    rw [waits]
    rfl

/-- A token is unexpected where reading a selector comes to it, or in a selector that it nests. -/
lemma parseAt_unexpected_iff (query : Query) :
    parseAt query.text query.base = .error ⟨.unexpected fragment, offset⟩ ↔
      query.Stumbles fragment offset ∨ ∃ inner, query.Reaches inner ∧
        parseAt inner.text inner.base = .error ⟨.unexpected fragment, offset⟩ := by
  constructor
  · intro h
    rw [parseAt_eq_compile] at h
    rcases Query.compile_eq_error_iff.1 h with failed | ⟨tokens, read, failed⟩
    · cases Cursor.tokens_unclosed failed
    · have rendering : Rendering .edge query.base tokens query.text := rendering_of_start read
      rcases failed with failed | ⟨progress, -, failed⟩
      · obtain ⟨before, token, later, progress, rfl, run, step⟩ := foldlM_eq_error_iff.1 failed
        -- Two compounds never meet, so the step that quotes the second of them is not reached.
        have met : ∀ text o, token = .compound text o →
            ∀ condition, progress.chain ≠ .complete condition := by
          rintro text o rfl
          exact rendering.ne_complete run nofun
        rcases Progress.step_unexpected met step with
          ⟨text, o, rfl, refused⟩ | ⟨k, condition, k', o, rfl, waits, rfl⟩
        · have compound := rendering.compoundText (List.mem_append_right _ (.head _))
          obtain ⟨cursor, reaches, ⟨_, stumbles, e⟩ | ⟨inner, nests, inside⟩⟩ :=
            (Compound.read_formal_iff compound (.inr rfl)).1 refused
          · cases e
            exact .inl (.simple read run reaches stumbles)
          · exact .inr ⟨inner, .argument read run reaches nests, inside⟩
        · exact .inl (.combinator read run waits)
      · exact absurd failed Progress.finish_ne_unexpected
  · rintro (stumbles | ⟨inner, reaches, failed⟩)
    · exact stumbles.parseAt_eq
    · exact reaches.parseAt_eq failed

/-- A selector is refused for an unexpected token if reading it comes to one, or to a nested
selector where there is one, at some depth. -/
theorem parse_unexpected_iff (s : Text) :
    parse s = .error ⟨.unexpected fragment, offset⟩ ↔
      ∃ inner, ReflTransGen Query.Reaches ⟨s, 0⟩ inner ∧ inner.Stumbles fragment offset :=
  parseAt_eq_error_iff_reached parseAt_unexpected_iff ⟨s, 0⟩

/-- What a selector quotes stands where it says, or a colon is left out in front of it. -/
lemma Query.Stumbles.quotes {whole : Text} (h : query.Stumbles fragment offset)
    (stands : query.StandsIn whole) :
    (∃ c t, fragment = c :: t ∧ c ≠ ':' ∧ StandsAt (c :: t) offset whole) ∨
      StandsAt (':' :: fragment) offset whole := by
  cases h with
  | simple read _ reaches stumbles =>
    have rendering : Rendering .edge query.base _ query.text := rendering_of_start read
    have compound := rendering.standsAt (List.mem_append_right _ (.head _)) stands
    obtain ⟨_, reads⟩ := reaches.reads
    exact stumbles.quotes (reads.standsIn compound).2
  | combinator read =>
    have rendering : Rendering .edge query.base _ query.text := rendering_of_start read
    obtain ⟨written, rest, writes, leaves⟩ := rendering.exists_written .all
    obtain ⟨c, t, rfl, other⟩ := writes.exists_cons
    have quoted : query.textFrom offset = c :: (t ++ rest) := leaves.textFrom_eq
    exact .inl ⟨c, t ++ rest, quoted, other, leaves.standsAt stands⟩

/-- An unexpected token that starts with a colon is quoted without the colon, and any other one as
it stands at its offset.  So the quote stands at its offset unless there is a colon, and even then
if it is nothing but more colons. -/
theorem unexpected_quoted {s : Text} (h : parse s = .error ⟨.unexpected fragment, offset⟩) :
    (StandsAt [':'] offset s → StandsAt (':' :: fragment) offset s) ∧
    (¬ StandsAt [':'] offset s → fragment ≠ [] ∧ StandsAt fragment offset s) ∧
    (fragment ≠ [] ∧ StandsAt fragment offset s ↔
      ¬ StandsAt [':'] offset s ∨ fragment ≠ [] ∧ ∀ c ∈ fragment, c = ':') := by
  obtain ⟨inner, reaches, stumbles⟩ := (parse_unexpected_iff s).1 h
  rcases stumbles.quotes (Query.standsIn_of_reaches reaches .all) with
    ⟨c, t, rfl, other, here⟩ | behind
  · have plain : ¬ StandsAt [':'] offset s := fun colon => other (here.head_eq colon)
    exact ⟨fun colon => absurd colon plain, fun _ => ⟨nofun, here⟩,
      iff_of_true ⟨nofun, here⟩ (.inl plain)⟩
  · refine ⟨fun _ => behind, fun plain => absurd behind.head plain, ?_⟩
    rw [behind.iff_of_cons]
    constructor
    · exact .inr
    · rintro (plain | repeated)
      · exact absurd behind.head plain
      · exact repeated

end

attribute [local instance] Pattern.engine

/-- A combinator after another one, and two colons in a row, both in a selector inside another. -/
theorem unexpected_quoted_nested :
    parse "ß:not(a, > + b)".toList = .error ⟨.unexpected "+ b".toList, 12⟩ ∧
      ¬ StandsAt [':'] 12 "ß:not(a, > + b)".toList ∧
      StandsAt "+ b".toList 12 "ß:not(a, > + b)".toList ∧
      parse "ß:has(.a::b)".toList = .error ⟨.unexpected ":b".toList, 9⟩ ∧
      StandsAt "::b".toList 9 "ß:has(.a::b)".toList ∧
      ¬ StandsAt ":b".toList 9 "ß:has(.a::b)".toList := by
  have refused : (parse "ß:not(a, > + b)".toList).map (fun _ => ()) =
      .error ⟨.unexpected "+ b".toList, 12⟩ := by decide +kernel
  have refused' : (parse "ß:has(.a::b)".toList).map (fun _ => ()) =
      .error ⟨.unexpected ":b".toList, 9⟩ := by decide +kernel
  have plain : ¬ StandsAt [':'] 12 "ß:not(a, > + b)".toList := by
    intro colon
    obtain ⟨after, split⟩ := colon.exists_dropBytes
    cases (show Text.dropBytes 12 "ß:not(a, > + b)".toList = "+ b)".toList by decide).symm.trans
      split
  have colon : StandsAt [':'] 9 "ß:has(.a::b)".toList :=
    ⟨"ß:has(.a".toList, ":b)".toList, by decide, by decide⟩
  obtain ⟨-, quoted, -⟩ := unexpected_quoted (map_eq_error_iff.1 refused)
  obtain ⟨behind, -, stands_iff⟩ := unexpected_quoted (map_eq_error_iff.1 refused')
  refine ⟨map_eq_error_iff.1 refused, plain, (quoted plain).2, map_eq_error_iff.1 refused',
    behind colon, fun here => ?_⟩
  rcases stands_iff.1 ⟨by decide, here⟩ with plain | ⟨-, repeated⟩
  · exact plain colon
  · exact absurd (repeated 'b' (by decide)) (by decide)

/-- A colon without a name behind it is not quoted, so the quote may be empty. -/
theorem colon_unquoted :
    ¬ ∀ s fragment offset, parse s = .error ⟨.unexpected fragment, offset⟩ →
      fragment ≠ [] ∧ StandsAt fragment offset s := by
  intro quoted
  have refused : (parse "a:".toList).map (fun _ => ()) = .error ⟨.unexpected [], 1⟩ := by
    decide +kernel
  exact (quoted _ _ _ (map_eq_error_iff.1 refused)).1 rfl

end Selector
end TreeQuery
