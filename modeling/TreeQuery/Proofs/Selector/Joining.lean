import Mathlib.Data.List.TakeWhile
import TreeQuery.Proofs.Selector.Shape
import TreeQuery.Proofs.Selector.Shift

/-!
# Texts that go on

What a reader reads from a text it reads from a longer text too, provided that what follows cannot
be taken for a part of it.  Neither where a selector stands nor what stands around it matters for
the condition that its tokens come out as.  Main statements: `Cursor.ReadsTokens.followedBy` and
`parse_eq_ok_iff`.
-/

namespace TreeQuery.Selector

namespace Region

/-- A region that is closed stays closed. -/
lemma scan_append {brackets : Brackets} {state : State} {offset : Nat} {t body rest : Text}
    (h : scan brackets state offset t = closed body rest) (v : Text) :
    scan brackets state offset (t ++ v) = closed body (rest ++ v) := by
  induction t generalizing state offset body with
  | nil => cases h
  | cons c t ih =>
    rw [scan] at h
    rw [List.cons_append, scan]
    cases next : state.step brackets offset c with
    | none =>
      rw [next] at h
      cases h
      rfl
    | some state' =>
      rw [next] at h
      dsimp only at h ⊢
      cases inner : scan brackets state' (offset + c.utf8Size) t with
      | closed body' rest' =>
        rw [inner] at h
        cases h
        rw [ih inner]
        rfl
      | unfinished quote =>
        rw [inner] at h
        cases h

end Region

namespace Cursor

/-- The cursor with more text at the end. -/
def followedBy (cursor : Cursor) (v : Text) : Cursor := { cursor with rest := cursor.rest ++ v }

variable {cursor after : Cursor}

/-- Moving over two texts one after the other is moving over both. -/
lemma past_past (cursor : Cursor) (s t s' t' : Text) :
    (cursor.past s t).past s' t' = cursor.past (s ++ s') t' := by
  simp [past, Nat.add_assoc]

/-- A run goes on as before if something follows it, or if it cannot go on. -/
lemma takeWhile_followedBy {p : Char → Bool} {v : Text}
    (h : (cursor.takeWhile p).2.rest ≠ [] ∨ v.takeWhile p = []) :
    (cursor.followedBy v).takeWhile p =
      ((cursor.takeWhile p).1, (cursor.takeWhile p).2.followedBy v) := by
  have parts := List.takeWhile_append_dropWhile (p := p) (l := v)
  have ended : cursor.rest.dropWhile p = [] → v.takeWhile p = [] := fun e =>
    h.resolve_left fun more => more e
  have taken : (cursor.rest ++ v).takeWhile p = cursor.rest.takeWhile p := by
    rw [List.takeWhile_append]
    split
    · rename_i all
      have whole := List.takeWhile_append_dropWhile (p := p) (l := cursor.rest)
      have e : cursor.rest.takeWhile p = cursor.rest :=
        (List.takeWhile_prefix p).eq_of_length all
      rw [e] at whole
      rw [ended (List.append_right_eq_self.1 whole), List.append_nil, e]
    · rfl
  have dropped : (cursor.rest ++ v).dropWhile p = cursor.rest.dropWhile p ++ v := by
    rw [List.dropWhile_append]
    split
    · rename_i e
      have none := List.isEmpty_iff.1 e
      rw [ended none, List.nil_append] at parts
      rw [none, parts, List.nil_append]
    · rfl
  simp only [takeWhile, followedBy, past, taken, dropped]

/-- What follows a region does not matter to it. -/
lemma region_followedBy {brackets : Brackets} {body : Text}
    (h : cursor.region brackets = (.ok body, after)) (v : Text) :
    (cursor.followedBy v).region brackets = (.ok body, after.followedBy v) := by
  obtain ⟨t, rest, first, closed, rfl⟩ := region_eq_ok_iff.1 h
  refine region_eq_ok_iff.2 ⟨t ++ v, rest ++ v, ?_, Region.scan_append closed v, rfl⟩
  rw [followedBy, first]
  rfl

/-- What follows a text does not change how it starts. -/
lemma rest_followedBy {c : Char} {rest : Text} (first : cursor.rest = c :: rest) (v : Text) :
    (cursor.followedBy v).rest = c :: (rest ++ v) := by
  rw [followedBy, first]
  rfl

/-- A compound ends where it did, if it ended before the end of the text or cannot go on. -/
lemma ReadsCompound.followedBy {text v : Text} (h : ReadsCompound cursor text after)
    (stop : after.rest ≠ [] ∨ Stops v) :
    ReadsCompound (cursor.followedBy v) text (after.followedBy v) := by
  induction h with
  | @nothing cursor stops =>
    apply ReadsCompound.nothing
    intro c head
    cases first : cursor.rest with
    | nil =>
      -- The compound ended with the text, so it is `v` that must end it now.
      have ends := stop.resolve_left fun more => more first
      apply ends
      rwa [Cursor.followedBy, first] at head
    | cons d rest =>
      rw [rest_followedBy first] at head
      cases head
      exact stops _ (by rw [first]; rfl)
  | region first opening region _ ih =>
    exact .region (rest_followedBy first v) opening (region_followedBy region v) (ih stop)
  | char first opening goesOn _ ih =>
    exact .char (rest_followedBy first v) opening goesOn (ih stop)

/-- What follows a compound does not matter if none can go on with it. -/
lemma compound_followedBy {text v : Text} (h : cursor.compound = (.ok text, after))
    (stop : after.rest ≠ [] ∨ Stops v) :
    (cursor.followedBy v).compound = (.ok text, after.followedBy v) :=
  compound_eq_ok_iff.2 ((compound_eq_ok_iff.1 h).followedBy stop)

/-- White space is skipped the same unless it runs on into what follows. -/
lemma blanks_followedBy {v : Text}
    (solid : cursor.blanks.2.rest ≠ [] ∨ v.takeWhile Text.isBlank = []) :
    (cursor.followedBy v).blanks = (cursor.blanks.1, cursor.blanks.2.followedBy v) := by
  unfold blanks
  rw [takeWhile_followedBy solid]

/-- A text that cannot go on with the token before it: with a compound or, if that was none, with
the white space behind a separator. -/
def EndsToken (afterCompound : Bool) (v : Text) : Prop :=
  Stops v ∧ (afterCompound ∨ v.takeWhile Text.isBlank = [])

/-- A token is read as before, if something follows it or if it cannot go on. -/
lemma next_followedBy {token : Token} {v : Text} (h : cursor.next = (.ok (some token), after))
    (stop : after.rest ≠ [] ∨ EndsToken after.afterCompound v) :
    (cursor.followedBy v).next = (.ok (some token), after.followedBy v) := by
  have skipped {c : Char} {rest : Text} (first : cursor.blanks.2.rest = c :: rest) :
      (cursor.followedBy v).blanks = (cursor.blanks.1, cursor.blanks.2.followedBy v) :=
    blanks_followedBy (.inl (first ▸ List.cons_ne_nil _ _))
  apply next_eq_some_iff.2
  cases next_eq_some_iff.1 h with
  | @separator c rest mark first separates =>
    -- A separator takes the white space behind it, of which `v` must not bring more.
    have blanks : ((cursor.blanks.2.past [c] rest).followedBy v).blanks = _ :=
      blanks_followedBy (stop.imp_right fun ends => ends.2.resolve_left nofun)
    have reads : ReadsToken (cursor.followedBy v) _ _ :=
      .separator (by rw [skipped first]; exact rest_followedBy first v) separates
    rw [skipped first] at reads
    change ReadsToken _ _ { ((cursor.blanks.2.past [c] rest).followedBy v).blanks.2 with
      afterCompound := false } at reads
    rw [blanks] at reads
    exact reads
  | descendant first plain descends =>
    have reads : ReadsToken (cursor.followedBy v) _ _ :=
      .descendant (by rw [skipped first]; exact rest_followedBy first v) plain
        (by rw [skipped first]; exact descends)
    rw [skipped first] at reads
    exact reads
  | compound first plain stays read =>
    have longer := compound_followedBy read (stop.imp_right And.left)
    have reads : ReadsToken (cursor.followedBy v) _ _ :=
      .compound (by rw [skipped first]; exact rest_followedBy first v) plain
        (by rw [skipped first]; exact stays) (by rw [skipped first]; exact longer)
    rw [skipped first] at reads
    exact reads

/-- From one cursor to another some tokens are read. -/
inductive ReadsTokens : Cursor → List Token → Cursor → Prop where
  | nil {cursor : Cursor} : ReadsTokens cursor [] cursor
  | cons {cursor middle after : Cursor} {token : Token} {tokens : List Token} :
    cursor.next = (.ok (some token), middle) → ReadsTokens middle tokens after →
    ReadsTokens cursor (token :: tokens) after

/-- All tokens are read where only white space is left. -/
lemma exists_readsTokens {tokens : List Token} (h : cursor.tokens.1 = .ok tokens) :
    ∃ after, ReadsTokens cursor tokens after ∧ after.blanks.2.rest = [] := by
  induction tokens generalizing cursor with
  | nil => exact ⟨cursor, .nil, tokens_eq_nil_iff.1 h⟩
  | cons token tokens ih =>
    obtain ⟨middle, next, later⟩ := exists_next_of_tokens h
    obtain ⟨after, reads, ended⟩ := ih later
    exact ⟨after, .cons next reads, ended⟩

/-- What is read first are the first tokens. -/
lemma ReadsTokens.tokens_eq {tokens : List Token} (h : ReadsTokens cursor tokens after) :
    cursor.tokens.1 = after.tokens.1.map (tokens ++ ·) := by
  induction h with
  | @nil cursor => cases cursor.tokens.1 <;> rfl
  | @cons cursor middle after token tokens next _ ih =>
    rw [tokens_of_next next, ih]
    cases after.tokens.1 <;> rfl

/-- After tokens that end with a compound one stands behind it. -/
lemma ReadsTokens.afterCompound {before : List Token} {text : Text} {offset : Nat}
    (h : ReadsTokens cursor (before ++ [.compound text offset]) after) :
    after.afterCompound = true := by
  induction before generalizing cursor with
  | nil =>
    cases h with
    | cons next later =>
      cases later
      exact afterCompound_of_next next
  | cons token before ih =>
    cases h with
    | cons _ later => exact ih later

/-- Tokens are read as before if the last one cannot go on. -/
lemma ReadsTokens.followedBy {tokens : List Token} {v : Text}
    (h : ReadsTokens cursor tokens after) (ends : EndsToken after.afterCompound v) :
    ReadsTokens (cursor.followedBy v) tokens (after.followedBy v) := by
  induction h with
  | nil => exact .nil
  | @cons cursor middle after token tokens next later ih =>
    refine .cons (next_followedBy next ?_) (ih ends)
    cases later with
    | nil => exact .inr ends
    | cons next' =>
      -- There is a token left to read, so this one does not end with the text.
      refine .inl fun none => ?_
      have blank : middle.blanks.2.rest = [] := by
        rw [blanks, takeWhile, none]
        rfl
      obtain ⟨last, missing⟩ := next_eq_none_iff.2 blank
      cases next'.symm.trans missing

/-- Where no white space stands nothing is skipped. -/
lemma blanks_of_solid (solid : cursor.rest.takeWhile Text.isBlank = []) :
    cursor.blanks = (false, cursor) := by
  have parts := List.takeWhile_append_dropWhile (p := Text.isBlank) (l := cursor.rest)
  rw [solid, List.nil_append] at parts
  unfold blanks takeWhile past
  rw [solid, parts]
  rfl

/-- White space is skipped only once. -/
lemma blanks_blanks (cursor : Cursor) : cursor.blanks.2.blanks = (false, cursor.blanks.2) := by
  apply blanks_of_solid
  cases first : cursor.blanks.2.rest with
  | nil => rfl
  | cons c rest => exact List.takeWhile_cons_of_neg (by simp [blanks_stop first])

/-- Where no compound came before, white space does not matter. -/
lemma tokens_blanks (fresh : cursor.afterCompound = false) :
    cursor.blanks.2.tokens.1 = cursor.tokens.1 := by
  have fresh' : cursor.blanks.2.afterCompound = false := fresh
  have next : cursor.blanks.2.next = cursor.next := by
    unfold next
    rw [blanks_blanks]
    simp only [fresh', Bool.and_false, Bool.false_eq_true, if_false]
  rw [tokens_eq, tokens_eq cursor, next]

/-- A selector of one compound is one wherever it stands. -/
lemma tokens_moved {base offset : Nat} {written text : Text}
    (h : (start base written).tokens.1 = .ok [.compound text offset]) (base' : Nat) :
    ∃ offset', (start base' written).tokens.1 = .ok [.compound text offset'] := by
  have here := congrArg Prod.fst (tokens_shift base (start 0 written))
  have there := congrArg Prod.fst (tokens_shift base' (start 0 written))
  change (start base written).tokens.1 = _ at here
  change (start base' written).tokens.1 = _ at there
  rw [h] at here
  rw [there]
  dsimp only [shifted] at here ⊢
  cases read : (start 0 written).tokens.1 with
  | error e => rw [read] at here; cases here
  | ok tokens =>
    rw [read] at here
    have same : [Token.compound text offset] = tokens.map (.shift base) := Except.ok.inj here
    obtain ⟨token, rfl, same⟩ := List.map_eq_singleton_iff.1 same.symm
    cases token with
    | compound => cases same; exact ⟨_, rfl⟩
    | separator => cases same

end Cursor

variable [PatternEngine]

/-! ### Conditions -/

/-- Where a compound stands does not matter for what it means. -/
lemma compound_read_moved {text : Text} {offset : Nat} {condition : Condition}
    (h : Compound.read parseAt text offset = .ok condition) (offset' : Nat) :
    Compound.read parseAt text offset' = .ok condition := by
  have nests (base : Nat) : NestedShift base text.length parseAt parseAt :=
    fun inner o _ => parseAt_shift inner base o
  have moved (base : Nat) := compound_read_shift (nests base) (Nat.le_refl text.length) 0
  have here := moved offset
  rw [Nat.add_zero, h] at here
  rw [← Nat.add_zero offset', moved]
  cases read : Compound.read parseAt text 0 with
  | error e => rw [read] at here; cases here
  | ok condition' => rw [read] at here; cases here; rfl

namespace Progress

variable {nested : Nested} {query : Query} {progress progress' : Progress}

/-- The text of the selector as a whole only shows in errors. -/
lemma step_of_step {token : Token} (h : progress.step nested query token = .ok progress')
    (query' : Query) : progress.step nested query' token = .ok progress' := by
  obtain ⟨finished, chain, comma⟩ := progress
  cases token with
  | compound text offset => exact h
  | separator mark offset =>
    cases mark with
    | comma => exact h
    | combinator next => cases chain <;> first | exact h | cases h

/-- Progress over tokens does not depend on the selector that they stand in. -/
lemma foldlM_of_foldlM {tokens : List Token}
    (h : tokens.foldlM (step nested query) progress = .ok progress') (query' : Query) :
    tokens.foldlM (step nested query') progress = .ok progress' := by
  induction tokens generalizing progress with
  | nil => exact h
  | cons token tokens ih =>
    obtain ⟨middle, next, rest⟩ := foldlM_cons_eq_ok_iff.1 h
    exact foldlM_cons_eq_ok_iff.2 ⟨middle, step_of_step next query', ih rest⟩

/-- Alternatives are finished at commas only. -/
lemma step_alone {token : Token} (alone : ∀ o, token ≠ .separator .comma o)
    (h : progress.step nested query token = .ok progress') :
    progress' = ⟨progress.finished, progress'.chain, progress.comma⟩ := by
  cases token with
  | compound text offset =>
    obtain ⟨chain, _, rfl⟩ := map_eq_ok_iff.1 h
    rfl
  | separator mark offset =>
    cases mark with
    | comma => exact absurd rfl (alone offset)
    | combinator k =>
      obtain ⟨chain, _, rfl⟩ := map_eq_ok_iff.1 h
      rfl

/-- Without commas all tokens belong to one alternative. -/
lemma foldlM_alone {tokens : List Token} (alone : ∀ o, .separator .comma o ∉ tokens)
    (h : tokens.foldlM (step nested query) progress = .ok progress') :
    progress' = ⟨progress.finished, progress'.chain, progress.comma⟩ := by
  refine foldlM_keeps (P := fun reached => reached = ⟨progress.finished, reached.chain,
    progress.comma⟩) (fun token member before after kept next => ?_) rfl h
  rw [step_alone (fun o e => alone o (e ▸ member)) next, kept]

/-- An alternative is complete right after a compound. -/
lemma exists_compound_of_complete {tokens : List Token} {condition : Condition}
    (h : tokens.foldlM (step nested query) start = .ok progress)
    (complete : progress.chain = .complete condition) :
    ∃ before text offset, tokens = before ++ [.compound text offset] := by
  rcases List.eq_nil_or_concat tokens with rfl | ⟨before, last, rfl⟩
  · cases h
    cases complete
  · rw [List.concat_eq_append] at h ⊢
    obtain ⟨middle, -, next⟩ := foldlM_append_eq_ok_iff.1 h
    obtain ⟨_, next, done⟩ := foldlM_cons_eq_ok_iff.1 next
    cases done
    cases last with
    | compound text offset => exact ⟨before, text, offset, rfl⟩
    | separator mark offset => exact absurd complete (step_separator next condition)

end Progress

/-- A selector is compiled from its tokens and comes out as its alternatives, of which the last one
is complete.  Neither where it stands nor what stands around it matters for that. -/
lemma parse_eq_ok_iff (base : Nat) (query : Query) {selector : Text} {condition : Condition} :
    parse selector = .ok condition ↔ ∃ tokens progress last,
      (Cursor.start base selector).tokens.1 = .ok tokens ∧
      tokens.foldlM (Progress.step parseAt query) .start = .ok progress ∧
      progress.chain = .complete last ∧ condition = .anyOf (progress.finished ++ [last]) := by
  have moved : parse selector = .ok condition ↔ parseAt selector base = .ok condition := by
    rw [← Nat.add_zero base, parseAt_shift]
    unfold parse
    cases parseAt selector 0 <;> simp [Except.mapError]
  have shown (tokens : List Token) (progress : Progress) :
      tokens.foldlM (Progress.step parseAt ⟨selector, base⟩) .start = .ok progress ↔
        tokens.foldlM (Progress.step parseAt query) .start = .ok progress :=
    ⟨fun h => Progress.foldlM_of_foldlM h _, fun h => Progress.foldlM_of_foldlM h _⟩
  simp only [moved, parseAt_eq_compile, Query.compile_eq_ok_iff, Progress.finish_eq_ok_iff, shown,
    exists_and_left]

/-- A selector of one compound is compiled as the compound is. -/
lemma parse_of_tokens {selector text : Text} {offset : Nat}
    (read : (Cursor.start 0 selector).tokens.1 = .ok [.compound text offset]) :
    parse selector = Compound.read parseAt text offset := by
  unfold parse
  rw [parseAt_eq_compile]
  unfold Query.compile
  rw [read]
  simp only [List.foldlM_cons, Progress.step, Progress.start, Chain.compound_start]
  cases Compound.read parseAt text offset <;> rfl

end TreeQuery.Selector
