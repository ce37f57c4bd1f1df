import TreeQuery.Pattern.Basic
import TreeQuery.Proofs.Selector.Rendering

/-!
# Where errors point

The offset of an error is a place between two characters of the outermost selector, and what the
error says of it stands there, however deep the selector is in which it was found.  Every reader
hands on a part of the whole selector together with the place where that part stands.  Main
statement: `parse_error_fits`.
-/

namespace TreeQuery

/-! ### Parts of a text -/

/-- The text stands in the whole one from byte `offset` on. -/
def Text.StandsAt (t : Text) (offset : Nat) (whole : Text) : Prop :=
  ∃ before after, whole = before ++ t ++ after ∧ offset = byteLength before

namespace Text.StandsAt

variable {whole s t : Text} {offset : Nat}

/-- A text stands at its own start. -/
lemma all : StandsAt t 0 t := ⟨[], [], by simp, rfl⟩

/-- The first of two parts stands where both of them do. -/
lemma left (h : StandsAt (s ++ t) offset whole) : StandsAt s offset whole := by
  obtain ⟨before, after, rfl, place⟩ := h
  exact ⟨before, t ++ after, by simp, place⟩

/-- The second of two parts stands behind the first. -/
lemma right (h : StandsAt (s ++ t) offset whole) :
    StandsAt t (offset + byteLength s) whole := by
  obtain ⟨before, after, rfl, rfl⟩ := h
  exact ⟨before ++ s, after, by simp, by simp⟩

/-- Where a text stands there is a place between characters. -/
lemma nil (h : StandsAt t offset whole) : StandsAt [] offset whole := @left whole [] t offset h

/-- The first character stands where the text does. -/
lemma head {c : Char} (h : StandsAt (c :: t) offset whole) : StandsAt [c] offset whole :=
  @left whole [c] t offset h

/-- What follows the first character stands behind it. -/
lemma tail {c : Char} (h : StandsAt (c :: t) offset whole) :
    StandsAt t (offset + c.utf8Size) whole :=
  @right whole [c] t offset h

/-- A part of a text ends where the text does or earlier. -/
lemma offset_le (h : StandsAt t offset whole) : offset ≤ byteLength whole := by
  obtain ⟨before, after, rfl, rfl⟩ := h
  simp only [byteLength_append]
  omega

end Text.StandsAt

namespace Selector
open Text (StandsAt)

/-! ### What errors say -/

/-- What a cause says of the place it was found at. -/
def Cause.FitsAt (whole : Text) (offset : Nat) : Cause → Prop
  | .unterminatedQuote quote _ => StandsAt [quote] offset whole
  | .unbalanced opening fragment =>
    StandsAt fragment offset whole ∧ fragment.head? = some opening
  -- A colon without a name is pointed at, but it is not quoted.
  | .unexpected fragment =>
    (fragment ≠ [] ∧ StandsAt fragment offset whole) ∨ StandsAt (':' :: fragment) offset whole
  -- A nested selector starts right after its bracket.
  | .emptyGroup =>
    offset = 0 ∨ StandsAt [','] offset whole ∨
      ∃ bracket, offset = bracket + 1 ∧ StandsAt ['('] bracket whole
  | .dangling mark => StandsAt [mark.toChar] offset whole ∧ mark.toChar ∈ ",>+~".toList
  | .unknownPseudoClass name => StandsAt (':' :: name) offset whole
  | .invalidArgument .attribute _ _ => StandsAt ['['] offset whole
  | .invalidArgument (.pseudoClass _) argument reason =>
    if reason = .missing then argument = [] ∧ StandsAt [':'] offset whole
    else StandsAt argument offset whole

/-- What the error says is so in the whole selector. -/
def Error.Fits (whole : Text) (e : Error) : Prop := e.cause.FitsAt whole e.offset

variable {whole : Text}

/-- Errors point between characters. -/
lemma Error.Fits.nil {e : Error} (h : e.Fits whole) : StandsAt [] e.offset whole := by
  obtain ⟨cause, offset⟩ := e
  cases cause with
  | unterminatedQuote | unknownPseudoClass => exact StandsAt.nil h
  | unbalanced | dangling => exact h.1.nil
  | unexpected =>
    rcases h with h | h
    · exact h.2.nil
    · exact h.nil
  | emptyGroup =>
    rcases h with start | comma | ⟨bracket, after, h⟩
    · exact start ▸ StandsAt.all.nil
    · exact comma.nil
    · exact after ▸ h.tail
  | invalidArgument subject argument reason =>
    match subject with
    | .attribute => exact StandsAt.nil h
    | .pseudoClass _ =>
      by_cases missing : reason = .missing
      · exact ((if_pos missing).mp h).2.nil
      · exact ((if_neg missing).mp h).nil

/-- The cursor stands in the whole selector where its offset says. -/
def Cursor.StandsIn (whole : Text) (cursor : Cursor) : Prop :=
  StandsAt cursor.rest cursor.offset whole

variable {cursor after : Cursor} {e : Error}

/-- What is read from a cursor stands where the cursor does, and the cursor after it behind it. -/
lemma Cursor.Reads.standsIn {taken : Text} (h : Reads cursor taken after)
    (stands : cursor.StandsIn whole) :
    StandsAt taken cursor.offset whole ∧ after.StandsIn whole := by
  unfold StandsIn at *
  rw [h.rest_eq] at stands
  rw [h.offset_eq]
  exact ⟨stands.left, stands.right⟩

/-! ### Regions -/

namespace Region

variable {brackets : Brackets} {state next : State} {offset o : Nat} {q : Char}

/-- The open quote is one that was open before, or the character just read. -/
lemma quote_of_step {c : Char} (h : state.step brackets offset c = some next)
    (opened : next.quote = some (q, o)) :
    state.quote = some (q, o) ∨ (q = c ∧ o = offset) := by
  unfold State.step at h
  repeat' split at h
  all_goals cases h
  all_goals
    first
      | exact .inl opened
      | cases opened <;> exact .inr ⟨rfl, rfl⟩

/-- The quote that the end of the text leaves open stands where the scan says. -/
lemma scan_unfinished {t : Text} (stands : StandsAt t offset whole)
    (opened : ∀ q o, state.quote = some (q, o) → StandsAt [q] o whole)
    (h : scan brackets state offset t = .unfinished (some (q, o))) : StandsAt [q] o whole := by
  induction t generalizing state offset with
  | nil =>
    cases quote : state.quote with
    | none => simp [scan, quote] at h
    | some place =>
      rw [scan, quote] at h
      cases h
      exact opened q o quote
  | cons c t ih =>
    rw [scan] at h
    split at h
    · cases h
    · rename_i next step
      cases later : scan brackets next (offset + c.utf8Size) t with
      | closed body rest =>
        rw [later] at h
        cases h
      | unfinished quote =>
        rw [later] at h
        cases h
        refine ih stands.tail (fun q o here => ?_) later
        rcases quote_of_step step here with before | ⟨rfl, rfl⟩
        · exact opened q o before
        · exact stands.head

end Region

/-- A region that is opened and not closed is pointed at, or the quote in it that is not closed. -/
lemma Cursor.region_fits {brackets : Brackets} {rest : Text} (stands : cursor.StandsIn whole)
    (opens : cursor.rest = brackets.opening :: rest)
    (h : cursor.region brackets = (.error e, after)) : e.Fits whole := by
  have inside : StandsAt rest (cursor.offset + brackets.opening.utf8Size) whole := by
    unfold StandsIn at stands
    exact (opens ▸ stands).tail
  unfold region at h
  split at h
  · rename_i none
    rw [opens] at none
    cases none
  · rename_i c t first
    cases first.symm.trans opens
    rw [if_pos rfl] at h
    split at h
    · cases h
    · rename_i scanned
      cases h
      exact Region.scan_unfinished inside (fun _ _ opened => by cases opened) scanned
    · cases h
      exact ⟨stands, congrArg List.head? first⟩

/-! ### Tokens -/

namespace Cursor

/-- An error in a compound fits the selector. -/
lemma compound_fits (stands : cursor.StandsIn whole)
    (h : cursor.compound = (.error e, after)) : e.Fits whole := by
  fun_induction compound cursor generalizing after with
  | case1 | case4 | case5 | case7 => cases h
  | case2 cursor c rest first brackets opening e' middle region =>
    cases h
    obtain ⟨rfl, -⟩ := Brackets.ofOpening?_eq_some_iff.1 opening
    exact region_fits stands first region
  | case3 cursor c rest first brackets opening body middle region e' last later ih =>
    cases h
    exact ih ((region_reads region).standsIn stands).2 later
  | case6 cursor c rest first opening goesOn e' last later ih =>
    cases h
    have reads : Reads cursor [c] (cursor.past [c] rest) := .past first
    exact ih (reads.standsIn stands).2 later

/-- An error in a token fits the selector. -/
lemma next_fits (stands : cursor.StandsIn whole) (h : cursor.next = (.error e, after)) :
    e.Fits whole := by
  have front := ((takeWhile_reads Text.isBlank cursor).standsIn stands).2
  unfold next at h
  dsimp only at h
  split at h
  · cases h
  · split at h
    · cases h
    · split at h
      · cases h
      · split at h
        · rename_i read
          cases h
          exact compound_fits front read
        · cases h

/-- An error in tokens fits the selector. -/
lemma tokens_fits (stands : cursor.StandsIn whole) (h : cursor.tokens.1 = .error e) :
    e.Fits whole := by
  fun_induction tokens cursor with
  | case1 cursor e' after next =>
    cases h
    exact next_fits stands next
  | case2 | case4 => cases h
  | case3 cursor token middle next e' last later ih =>
    cases h
    obtain ⟨taken, reads⟩ := (next_eq_some_iff.1 next).reads
    exact ih (reads.standsIn stands).2 (congrArg Prod.fst later)

end Cursor

/-! ### Selectors inside selectors -/

variable {query : Query} {t : Text} {left : Side} {offset : Nat}

/-- The text is what is left of a selector from `offset` on. -/
def Query.Leaves (query : Query) (offset : Nat) (t : Text) : Prop :=
  ∃ before, query.text = before ++ t ∧ offset = query.base + Text.byteLength before

/-- The selector stands in the whole one where its base says. -/
def Query.StandsIn (whole : Text) (query : Query) : Prop := StandsAt query.text query.base whole

namespace Query.Leaves

/-- At its base the whole selector is left. -/
lemma all : query.Leaves query.base query.text := ⟨[], rfl, rfl⟩

/-- Behind a part of what is left stands the rest of it. -/
lemma drop {s : Text} (h : query.Leaves offset (s ++ t)) :
    query.Leaves (offset + Text.byteLength s) t := by
  obtain ⟨before, split, place⟩ := h
  refine ⟨before ++ s, by rw [split, List.append_assoc], ?_⟩
  rw [place, Text.byteLength_append, Nat.add_assoc]

/-- The text from an offset is what is left there. -/
lemma textFrom_eq (h : query.Leaves offset t) : query.textFrom offset = t := by
  obtain ⟨before, split, rfl⟩ := h
  unfold textFrom
  rw [split, Nat.add_sub_cancel_left, Text.dropBytes_byteLength_append]

/-- What is left of a selector stands in the whole. -/
lemma standsAt (h : query.Leaves offset t) (stands : query.StandsIn whole) :
    StandsAt t offset whole := by
  obtain ⟨before, split, rfl⟩ := h
  unfold StandsIn at stands
  rw [split] at stands
  exact stands.right

/-- No more is left than there was. -/
lemma length_le (h : query.Leaves offset t) : t.length ≤ query.text.length := by
  obtain ⟨before, split, -⟩ := h
  rw [split, List.length_append]
  exact Nat.le_add_left _ _

end Query.Leaves

/-- The compounds of a rendering stand where they say. -/
lemma Rendering.standsAt {tokens : List Token} {text : Text} {o : Nat}
    (h : Rendering left offset tokens t) (member : .compound text o ∈ tokens)
    (stands : StandsAt t offset whole) : StandsAt text o whole := by
  induction h with
  | nil => cases member
  | @cons left offset token tokens gap written rest _ _ _ place writes _ ih =>
    rw [List.append_assoc] at stands
    have stands := stands.right
    rw [← place] at stands
    rcases List.mem_cons.1 member with rfl | member
    · cases writes
      exact stands.left
    · exact ih member stands.right

/-- Apart from the descendant one the separators are marks of their own. -/
lemma mem_of_ne_descent {mark : Separator} (own : mark ≠ .combinator .descendant) :
    mark.toChar ∈ ",>+~".toList := by
  rcases mark with _ | (_ | _ | _ | _) <;> first | exact absurd rfl own | decide

/-- No token is written as nothing. -/
lemma Token.Writes.ne_nil {token : Token} {written : Text} (h : token.Writes written) :
    written ≠ [] := by
  cases h with
  | compound _ nonempty | descent _ nonempty => exact nonempty
  | mark => nofun

section

/-! ### Arguments -/

namespace Parameter

variable {argument : Text}

/-- A value that is refused for another reason is not missing. -/
lemma orElse_ne_missing {α : Type} {value : Option α} {given reason : Reason}
    (present : given ≠ .missing) (h : read.orElse value given = .error reason) :
    reason ≠ .missing := by
  cases value <;> cases h
  exact present

/-- The text of a search is never refused as missing. -/
lemma searchText_ne_missing {reason : Reason} (h : searchText argument = .error reason) :
    reason ≠ .missing := by
  unfold searchText at h
  split at h <;> cases h
  nofun

end Parameter

variable [PatternEngine]

/-- A reader of inner selectors is right about texts of less than `limit` characters that stand
right after a bracket. -/
def NestedFits (nested : Nested) (whole : Text) (limit : Nat) : Prop :=
  ∀ inner bracket e, inner.length < limit → StandsAt ('(' :: inner) bracket whole →
    nested inner (bracket + 1) = .error e → e.Fits whole

variable {nested : Nested} {limit : Nat}

/-- Whatever is wrong with an attribute test, its bracket is pointed at. -/
lemma AttributeTest.read_eq_error {inner : Text} {offset : Nat}
    (h : read inner offset = .error e) :
    ∃ argument reason, e = ⟨.invalidArgument .attribute argument reason, offset⟩ := by
  unfold read at h
  dsimp only at h
  repeat' split at h
  all_goals
    cases h
    try exact ⟨_, _, rfl⟩

namespace Parameter

variable {name argument : Text} {offset : Nat}

/-- A pattern is never refused as missing. -/
lemma pattern_ne_missing {reason : Reason} (h : pattern argument = .error reason) :
    reason ≠ .missing := by
  unfold pattern at h
  split at h
  · cases h
    nofun
  · cases read : PatternEngine.compile argument with
    | ok pattern => rw [read] at h; cases h
    | error message =>
      rw [read] at h
      cases h
      nofun

/-- An argument that is there is refused for what it says, and pointed at. -/
lemma explain_fits {α : Type} {result : Except Reason α} {f : α → Condition}
    (stands : StandsAt argument offset whole)
    (h : read.explain name argument offset (result.map f) = .error e)
    (present : ∀ reason, result = .error reason → reason ≠ .missing) : e.Fits whole := by
  cases result with
  | ok a => cases h
  | error reason =>
    cases h
    exact (if_neg (present reason rfl)).mpr stands

/-- An error in the argument of a pseudo-class fits the selector. -/
lemma read_fits {parameter : Parameter} {bracket : Nat}
    (nests : NestedFits nested whole limit) (short : argument.length < limit)
    (stands : StandsAt ('(' :: argument) bracket whole)
    (h : parameter.read nested name argument (bracket + 1) = .error e) : e.Fits whole := by
  have inside : StandsAt argument (bracket + 1) whole := stands.tail
  cases parameter with
  | has | not => exact nests argument bracket e short stands (map_eq_error_iff.1 h)
  | index | nth => exact explain_fits inside h fun _ => orElse_ne_missing nofun
  | contains | containsData => exact explain_fits inside h fun _ => searchText_ne_missing
  | matchesPattern => exact explain_fits inside h fun _ => pattern_ne_missing

end Parameter

namespace PseudoClass

variable {name : Text} {colon : Nat}

/-- A pseudo-class without an argument is pointed at by its colon. -/
lemma compile_plain_fits (stands : StandsAt (':' :: name) colon whole)
    (h : compile nested name colon none = .error e) : e.Fits whole := by
  unfold compile at h
  split at h
  · cases h
    exact stands
  · cases h
  · rename_i none
    cases none
  · cases h
    exact ⟨rfl, stands.head⟩
  · rename_i none
    cases none

/-- An error in a pseudo-class with an argument fits the selector. -/
lemma compile_call_fits {argument : Text} {bracket : Nat} (nests : NestedFits nested whole limit)
    (short : argument.length < limit) (stands : StandsAt (':' :: name) colon whole)
    (inside : StandsAt ('(' :: argument) bracket whole)
    (h : compile nested name colon (some (argument, bracket + 1)) = .error e) : e.Fits whole := by
  unfold compile at h
  split at h
  · cases h
    exact stands
  · rename_i none
    cases none
  · rename_i given
    cases given
    cases h
    exact inside.tail
  · rename_i none
    cases none
  · rename_i given
    cases given
    exact Parameter.read_fits nests short inside h

end PseudoClass

/-! ### Simple selectors -/

namespace Compound

/-- A colon is pointed at where no name follows it, and otherwise what is wrong behind it. -/
lemma pseudoClass_fits {rest : Text} (nests : NestedFits nested whole limit)
    (stands : cursor.StandsIn whole) (first : cursor.rest = ':' :: rest)
    (short : cursor.rest.length ≤ limit)
    (h : pseudoClass nested cursor.offset (cursor.past [':'] rest) = .error e) :
    e.Fits whole := by
  have colon : Cursor.Reads cursor [':'] (cursor.past [':'] rest) := .past first
  have named : Cursor.Reads cursor (':' :: (cursor.past [':'] rest).name.1)
      (cursor.past [':'] rest).name.2 := colon.trans (Cursor.takeWhile_reads isNameChar _)
  obtain ⟨name, front⟩ := named.standsIn stands
  unfold pseudoClass at h
  dsimp only at h
  split at h
  · rename_i nameless
    cases h
    have here := named.rest_eq
    rw [List.isEmpty_iff.1 nameless] at here
    unfold Cursor.StandsIn at stands
    rw [here] at stands
    exact .inr stands
  · split at h
    · rename_i opens
      obtain ⟨t, opens⟩ := List.head?_eq_some_iff.1 opens
      split at h
      · rename_i region
        cases h
        exact Cursor.region_fits front opens region
      · rename_i argument after region
        split at h <;> cases h
        rename_i failed
        have reads := Cursor.region_reads region
        have shorter := Nat.lt_of_lt_of_le (argument_length_lt first rfl region) short
        exact PseudoClass.compile_call_fits nests shorter name (reads.standsIn front).1.left failed
    · split at h <;> cases h
      rename_i failed
      exact PseudoClass.compile_plain_fits name failed

/-- What cannot be read as a simple selector is quoted, up to the end of the compound. -/
lemma simple_fits {c : Char} {rest : Text} (nests : NestedFits nested whole limit)
    (stands : cursor.StandsIn whole) (first : cursor.rest = c :: rest)
    (short : cursor.rest.length ≤ limit) (h : simple nested cursor c rest = .error e) :
    e.Fits whole := by
  have unexpected : (Error.mk (.unexpected cursor.rest) cursor.offset).Fits whole :=
    .inl ⟨first ▸ nofun, stands⟩
  unfold simple at h
  dsimp only at h
  split at h
  · split at h <;> cases h
    exact unexpected
  · split at h <;> cases h
    exact unexpected
  · split at h <;> cases h
  · split at h
    · rename_i region
      cases h
      exact Cursor.region_fits stands first region
    · split at h <;> cases h
      rename_i refused
      obtain ⟨argument, reason, rfl⟩ := AttributeTest.read_eq_error refused
      unfold Cursor.StandsIn at stands
      exact StandsAt.head (first ▸ stands)
  · exact pseudoClass_fits nests stands first short h
  · split at h <;> cases h
    exact unexpected

/-- An error in a run of simple selectors fits the selector. -/
lemma simples_fits (nests : NestedFits nested whole limit) (stands : cursor.StandsIn whole)
    (short : cursor.rest.length ≤ limit) (h : simples nested cursor = .error e) :
    e.Fits whole := by
  fun_induction simples nested cursor with
  | case1 | case4 => cases h
  | case2 cursor c rest first e' failed =>
    cases h
    exact simple_fits nests stands first short failed
  | case3 cursor c rest first condition after read e' later ih =>
    cases h
    obtain ⟨taken, reads⟩ := ((simple_eq_ok_iff first).1 read).reads
    have shorter := length_rest_simple first read
    exact ih (reads.standsIn stands).2 (Nat.le_trans (Nat.le_of_lt shorter) short) later

/-- An error in what a compound token holds fits the selector. -/
lemma read_fits {text : Text} {offset : Nat} (nests : NestedFits nested whole limit)
    (stands : StandsAt text offset whole) (short : text.length ≤ limit)
    (h : read nested text offset = .error e) : e.Fits whole :=
  @simples_fits whole (.start offset text) e _ nested limit nests stands short
    (map_eq_error_iff.1 h)

end Compound

/-! ### Alternatives -/

/-- After what `left` says, an open combinator that is no descent and the last comma stand where the
progress says. -/
structure Progress.StandsIn (whole : Text) (left : Side) (progress : Progress) : Prop where
  awaiting : ∀ condition k o, progress.chain = .awaiting condition k o → left ≠ .descent →
    k ≠ .descendant ∧ StandsAt [(Separator.combinator k).toChar] o whole
  comma : ∀ o, progress.comma = some o → StandsAt [','] o whole

namespace Progress

variable {progress progress' : Progress}

/-- At the start nothing has been read, and it stands anywhere. -/
lemma standsIn_start : start.StandsIn whole .edge := ⟨nofun, nofun⟩

/-- A combinator that waits for a compound is pointed at where something else follows. -/
lemma StandsIn.dangling {condition : Condition} {k : Combinator} {o : Nat}
    (stands : progress.StandsIn whole left) (waits : progress.chain = .awaiting condition k o)
    (met : left ≠ .descent) : (Error.mk (.dangling (.combinator k)) o).Fits whole := by
  obtain ⟨own, place⟩ := stands.awaiting condition k o waits met
  exact ⟨place, mem_of_ne_descent (by simpa using own)⟩

/-- An error at the end of an alternative fits the selector. -/
lemma StandsIn.chain_finish_fits {anchor : Nat} (stands : progress.StandsIn whole left)
    (met : left ≠ .descent) (empty : (Error.mk .emptyGroup anchor).Fits whole)
    (h : progress.chain.finish anchor = .error e) : e.Fits whole := by
  cases chain : progress.chain with
  | start =>
    rw [chain] at h
    cases h
    exact empty
  | complete condition =>
    rw [chain] at h
    cases h
  | awaiting condition k o =>
    rw [chain] at h
    cases h
    exact stands.dangling chain met

variable {token : Token} {written : Text}

/-- A token that cannot come next is quoted, a combinator with all that is behind it. -/
lemma StandsIn.step_fits (stands : progress.StandsIn whole left)
    (nests : NestedFits nested whole query.text.length) (inside : query.StandsIn whole)
    (meets : left.meets token.side) (here : query.Leaves token.offset (written ++ t))
    (writes : token.Writes written) (h : progress.step nested query token = .error e) :
    e.Fits whole := by
  have part := here.standsAt inside
  have nonempty := writes.ne_nil
  match token with
  | .compound text offset =>
    cases writes
    replace h := map_eq_error_iff.1 h
    have short : written.length ≤ query.text.length :=
      Nat.le_trans (Nat.le.intro List.length_append.symm) here.length_le
    unfold Chain.compound at h
    split at h
    · rename_i refused
      cases h
      exact Compound.read_fits nests part.left short refused
    · split at h <;> cases h
      exact .inl ⟨nonempty, part.left⟩
  | .separator (.combinator k) offset =>
    replace h := map_eq_error_iff.1 h
    unfold Chain.combinator at h
    split at h <;> cases h
    have quoted : query.textFrom offset = written ++ t := here.textFrom_eq
    refine .inl ?_
    rw [quoted]
    exact ⟨List.append_ne_nil_of_left_ne_nil nonempty t, part⟩
  | .separator .comma offset =>
    cases writes
    have met : left ≠ .descent := by
      rintro rfl
      cases meets
    exact stands.chain_finish_fits met (.inr (.inl part.left)) (map_eq_error_iff.1 h)

/-- The combinators and commas that are read stand where they are. -/
lemma StandsIn.step (stands : progress.StandsIn whole left) (inside : query.StandsIn whole)
    (here : query.Leaves token.offset (written ++ t)) (writes : token.Writes written)
    (h : progress.step nested query token = .ok progress') :
    progress'.StandsIn whole token.side := by
  have part := (here.standsAt inside).left
  match token with
  | .compound text offset =>
    obtain ⟨chain, compound, rfl⟩ := map_eq_ok_iff.1 h
    obtain ⟨condition, rfl, -⟩ := complete_of_compound compound
    exact ⟨nofun, stands.comma⟩
  | .separator (.combinator k) offset =>
    obtain ⟨chain, next, rfl⟩ := map_eq_ok_iff.1 h
    obtain ⟨condition, -, rfl⟩ := Chain.combinator_eq_ok_iff.1 next
    refine ⟨fun condition' k' o waits met => ?_, stands.comma⟩
    cases waits
    cases writes with
    | mark own => exact ⟨fun descent => own (congrArg _ descent), part⟩
    | descent => exact absurd rfl met
  | .separator .comma offset =>
    obtain ⟨last, -, rfl⟩ := step_comma_eq_ok_iff.1 h
    cases writes
    exact ⟨nofun, fun o e => by cases e; exact part⟩

/-- An error at some token fits the selector. -/
lemma StandsIn.foldlM_fits {tokens : List Token} (stands : progress.StandsIn whole left)
    (nests : NestedFits nested whole query.text.length) (inside : query.StandsIn whole)
    (rendering : Rendering left offset tokens t) (here : query.Leaves offset t)
    (h : tokens.foldlM (Progress.step nested query) progress = .error e) : e.Fits whole := by
  induction rendering generalizing progress with
  | nil => cases h
  | @cons left offset token tokens gap written rest meets blank loose place writes later ih =>
    rw [List.append_assoc] at here
    have there : query.Leaves token.offset (written ++ rest) := place ▸ here.drop
    rcases foldlM_cons_eq_error_iff.1 h with failed | ⟨middle, next, h⟩
    · exact stands.step_fits nests inside meets there writes failed
    · exact ih (stands.step inside there writes next) there.drop h

/-- A selector ends where white space for descent cannot stand. -/
lemma StandsIn.foldlM {tokens : List Token} (stands : progress.StandsIn whole left)
    (inside : query.StandsIn whole) (rendering : Rendering left offset tokens t)
    (here : query.Leaves offset t)
    (h : tokens.foldlM (Progress.step nested query) progress = .ok progress') :
    ∃ last, last ≠ .descent ∧ progress'.StandsIn whole last := by
  induction rendering generalizing progress with
  | @nil left _ _ meets =>
    cases h
    refine ⟨left, ?_, stands⟩
    rintro rfl
    cases meets
  | @cons left offset token tokens gap written rest meets blank loose place writes later ih =>
    rw [List.append_assoc] at here
    have there : query.Leaves token.offset (written ++ rest) := place ▸ here.drop
    obtain ⟨middle, next, h⟩ := foldlM_cons_eq_ok_iff.1 h
    exact ih (stands.step inside there writes next) there.drop h

/-- An error at the end of a selector fits it. -/
lemma StandsIn.finish_fits (stands : progress.StandsIn whole left) (met : left ≠ .descent)
    (empty : (Error.mk .emptyGroup query.base).Fits whole)
    (h : progress.finish query.base = .error e) : e.Fits whole := by
  unfold finish at h
  split at h
  · rename_i comma
    cases h
    exact ⟨stands.comma _ comma, by decide⟩
  · cases h
    exact empty
  · exact stands.chain_finish_fits met empty (map_eq_error_iff.1 h)

end Progress

/-- An error in a selector points into it, given that errors in the selectors inside it do. -/
lemma Query.compile_fits (nests : NestedFits nested whole query.text.length)
    (inside : query.StandsIn whole) (empty : (Error.mk .emptyGroup query.base).Fits whole)
    (h : query.compile nested = .error e) : e.Fits whole := by
  rcases compile_eq_error_iff.1 h with failed | ⟨tokens, read, later⟩
  · exact @Cursor.tokens_fits whole (.start query.base query.text) e inside failed
  · have rendering : Rendering .edge query.base tokens query.text := rendering_of_start read
    rcases later with failed | ⟨progress, folded, failed⟩
    · exact Progress.standsIn_start.foldlM_fits nests inside rendering .all failed
    · obtain ⟨last, met, stands⟩ := Progress.standsIn_start.foldlM inside rendering .all folded
      exact stands.finish_fits met empty failed

/-- An error in a nested selector fits the selector around it. -/
lemma parseAt_fits {text : Text} {base : Nat} (stands : StandsAt text base whole)
    (empty : (Error.mk .emptyGroup base).Fits whole) (h : parseAt text base = .error e) :
    e.Fits whole := by
  induction size : text.length using Nat.strongRecOn generalizing text base e with
  | ind n ih =>
    rw [parseAt_eq_compile] at h
    refine @Query.compile_fits whole e ⟨text, base⟩ _ parseAt ?_ stands empty h
    intro inner bracket e' shorter part failed
    have inside : StandsAt inner (bracket + 1) whole := part.tail
    have opened : (Error.mk .emptyGroup (bracket + 1)).Fits whole :=
      .inr (.inr ⟨bracket, rfl, part.head⟩)
    exact ih inner.length (size ▸ shorter) inside opened failed rfl

/-- What an error says is so at its offset, which is one between two characters. -/
theorem parse_error_fits {s : Text} (h : parse s = .error e) :
    StandsAt [] e.offset s ∧ e.offset ≤ Text.byteLength s ∧ e.Fits s := by
  have fits : e.Fits s := parseAt_fits .all (.inl rfl) h
  exact ⟨fits.nil, fits.nil.offset_le, fits⟩

end

attribute [local instance] Pattern.engine

/-- A tilde with nothing behind it, two selectors deep and behind letters of two bytes. -/
theorem parse_error_dangling :
    parse "ü:has(b, :not(> ß ~))".toList =
        .error ⟨.dangling (.combinator .subsequentSibling), 20⟩ ∧
      StandsAt [] 20 "ü:has(b, :not(> ß ~))".toList ∧
      20 ≤ Text.byteLength "ü:has(b, :not(> ß ~))".toList ∧
      Error.Fits "ü:has(b, :not(> ß ~))".toList
        ⟨.dangling (.combinator .subsequentSibling), 20⟩ := by
  have refused : (parse "ü:has(b, :not(> ß ~))".toList).map (fun _ => ()) =
      .error ⟨.dangling (.combinator .subsequentSibling), 20⟩ := by decide +kernel
  have read := map_eq_error_iff.1 refused
  exact ⟨read, parse_error_fits read⟩

end Selector
end TreeQuery
