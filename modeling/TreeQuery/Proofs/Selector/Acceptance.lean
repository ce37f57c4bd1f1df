import TreeQuery.Proofs.Selector.Arguments
import TreeQuery.Proofs.Selector.Shift

/-!
# What the compiler accepts

Level by level, the readers of simple selectors, compounds and alternatives accept what the grammar
allows, given a reader of inner selectors that does so for shorter texts.  Main statement:
`parse_iff_accepted`.
-/

namespace TreeQuery.Selector
open TreeQuery.Selector.Grammar

/-! ### Regions -/

namespace Cursor

variable {brackets : Brackets} {cursor after : Cursor} {body rest : Text}

/-- A region that is read has a balanced body. -/
lemma balanced_of_region (distinct : brackets.Distinct)
    (h : cursor.region brackets = (.ok body, after)) : Balanced brackets body := by
  obtain ⟨t, rest, -, closed, -⟩ := region_eq_ok_iff.1 h
  exact ((Region.scan_start_eq_closed_iff distinct).1 closed).2

/-- A balanced body between its brackets is read as a region. -/
lemma region_of_balanced (distinct : brackets.Distinct) (balanced : Balanced brackets body)
    (h : cursor.rest = brackets.opening :: body ++ brackets.closing :: rest) :
    cursor.region brackets =
      (.ok body, cursor.past (brackets.opening :: body ++ [brackets.closing]) rest) := by
  apply region_eq_ok_iff.2
  refine ⟨body ++ brackets.closing :: rest, rest, h, ?_, rfl⟩
  exact (Region.scan_start_eq_closed_iff distinct).2 ⟨rfl, balanced⟩

/-- A run in front of the rest is what a cursor takes. -/
lemma takeWhile_of_run {p : Char → Bool} {run : Text} (h : Run p run rest)
    (split : cursor.rest = run ++ rest) : cursor.takeWhile p = (run, cursor.past run rest) := by
  rw [takeWhile, split, h.takeWhile_eq, h.dropWhile_eq]

/-- What a cursor takes is a run that the rest does not go on. -/
lemma run_of_takeWhile {p : Char → Bool} {run : Text} (h : cursor.takeWhile p = (run, after)) :
    cursor.rest = run ++ after.rest ∧ Run p run after.rest := by
  cases h
  exact ⟨List.takeWhile_append_dropWhile.symm, .of_takeWhile _ _⟩

end Cursor

/-- No token of a text is an empty compound. -/
lemma ne_nil_of_mem_tokens {cursor : Cursor} {tokens : List Token} {text : Text} {offset : Nat}
    (h : cursor.tokens.1 = .ok tokens) (member : .compound text offset ∈ tokens) : text ≠ [] := by
  induction tokens generalizing cursor with
  | nil => cases member
  | cons token tokens ih =>
    obtain ⟨after, next, later⟩ := Cursor.exists_next_of_tokens h
    rcases List.mem_cons.1 member with rfl | member
    · exact Cursor.ne_nil_of_next next
    · exact ih later member

/-! ### Simple selectors -/

/-- A chain that starts with a compound ends there or goes on behind a combinator. -/
lemma chained_compound_iff {compound : Text → Prop} {text : Text} {offset : Nat}
    {tokens : List Token} :
    Chained compound (.compound text offset :: tokens) ↔
      compound text ∧ (tokens = [] ∨ ∃ k offset later,
        tokens = .separator (.combinator k) offset :: later ∧ Chained compound later) := by
  constructor
  · intro h
    cases h with
    | last here => exact ⟨here, .inl rfl⟩
    | cons here later => exact ⟨here, .inr ⟨_, _, _, rfl, later⟩⟩
  · intro h
    obtain ⟨here, rfl | ⟨k, o, later, rfl, chained⟩⟩ := h
    · exact .last here
    · exact .cons here chained

/-- No kind of pseudo-class has an empty name. -/
lemma Compound.ne_nil_of_mem_names {name : Text} {kind : Kind}
    (member : Text.lower name ∈ kind.names) : name ≠ [] := by
  rintro rfl
  exact absurd member (by cases kind <;> decide)

variable [PatternEngine]

/-- A reader of inner selectors accepts certain texts of less than `limit` characters. -/
def NestedAccepts (nested : Nested) (accepted : Text → Prop) (limit : Nat) : Prop :=
  ∀ inner offset, inner.length < limit → ((nested inner offset).isOk ↔ accepted inner)

variable {nested : Nested} {accepted : Text → Prop} {limit : Nat}

namespace Compound

variable {cursor after : Cursor} {condition : Condition}

/-- What is read as a simple selector is one. -/
lemma grammar_of_readsSimple (nests : NestedAccepts nested accepted limit)
    (short : cursor.rest.length ≤ limit) (h : ReadsSimple nested cursor condition after) :
    ∃ taken, cursor.rest = taken ++ after.rest ∧ Simple accepted taken after.rest := by
  cases h with
  | @id _ name _ first read named =>
    obtain ⟨split, run⟩ := Cursor.run_of_takeWhile read
    exact ⟨'#' :: name, first.trans (congrArg _ split), .id named run⟩
  | @hasClass _ name _ first read named =>
    obtain ⟨split, run⟩ := Cursor.run_of_takeWhile read
    exact ⟨'.' :: name, first.trans (congrArg _ split), .hasClass named run⟩
  | universal first read =>
    obtain ⟨split, run⟩ := Cursor.run_of_takeWhile read
    exact ⟨['*'], first.trans (congrArg _ split), .universal run⟩
  | @universalTag _ tag _ first read =>
    obtain ⟨split, run⟩ := Cursor.run_of_takeWhile read
    exact ⟨'*' :: tag, first.trans (congrArg _ split), .universal run⟩
  | attributeTest _ region read =>
    have balanced := Cursor.balanced_of_region Brackets.distinct_square region
    have accepts := AttributeTest.attribute_isOk_iff.1 (isOk_iff.2 ⟨_, read⟩)
    exact ⟨_, (Cursor.region_reads region).rest_eq, .attributeTest balanced accepts⟩
  | @plain _ name _ _ first read _ bare compiled =>
    obtain ⟨split, run⟩ := Cursor.run_of_takeWhile read
    have member := PseudoClass.compile_plain_isOk_iff.1 (isOk_iff.2 ⟨_, compiled⟩)
    exact ⟨':' :: name, first.trans (congrArg _ split), .plain run bare member⟩
  | @call rest name argument _ front _ first read _ region compiled =>
    obtain ⟨split, run⟩ := Cursor.run_of_takeWhile read
    have split : rest = name ++ front.rest := split
    have inside := (Cursor.region_reads region).rest_eq
    have balanced := Cursor.balanced_of_region Brackets.distinct_round region
    have shorter := Nat.lt_of_lt_of_le (argument_length_lt first read region) short
    refine ⟨':' :: name ++ '(' :: argument ++ [')'], ?_, ?_⟩
    · rw [first, split, inside]
      simp [Brackets.round]
    · rcases PseudoClass.compile_call_isOk_iff.1 (isOk_iff.2 ⟨_, compiled⟩) with takes | nested
      · exact .call run.all balanced takes
      · exact .nested run.all balanced nested.1 ((nests _ _ shorter).1 nested.2)
  | @tag c _ tag _ first letter read =>
    obtain ⟨split, run⟩ := Cursor.run_of_takeWhile read
    refine ⟨tag, split, .tag ?_ run⟩
    rintro rfl
    have stop := run.stop c (congrArg List.head? (split.symm.trans first))
    exact absurd letter (by simp [stop])

/-- A name with an argument that it takes is read as a pseudo-class. -/
lemma readsSimple_call (nests : NestedAccepts nested accepted limit)
    (short : cursor.rest.length ≤ limit) {name argument rest : Text}
    (all : ∀ c ∈ name, isNameChar c) (balanced : Balanced .round argument)
    (takes : Argument (Text.lower name) argument ∨
      Text.lower name ∈ Kind.selector.names ∧ accepted argument)
    (split : cursor.rest = ':' :: name ++ '(' :: argument ++ [')'] ++ rest) :
    ∃ condition after, ReadsSimple nested cursor condition after ∧ after.rest = rest := by
  have split : cursor.rest = ':' :: (name ++ ('(' :: argument ++ ')' :: rest)) := by
    rw [split]
    simp
  have inside : argument.length < limit := by
    rw [split] at short
    simp at short
    omega
  have run : Run isNameChar name ('(' :: argument ++ ')' :: rest) := by
    refine ⟨all, fun c first => ?_⟩
    cases first
    decide
  have read : (cursor.past [':'] _).name = (name, _) := Cursor.takeWhile_of_run run rfl
  generalize front_eq : Cursor.past _ name ('(' :: argument ++ ')' :: rest) = front at read
  have front_rest : front.rest = '(' :: argument ++ ')' :: rest := front_eq ▸ rfl
  have ok : (PseudoClass.compile nested name cursor.offset
      (some (argument, front.offset + 1))).isOk := by
    rw [PseudoClass.compile_call_isOk_iff, nests _ _ inside]
    exact takes
  obtain ⟨kind, member, -⟩ := PseudoClass.compile_call_isOk_iff_takes.1 ok
  obtain ⟨condition, compiled⟩ := isOk_iff.1 ok
  have region := Cursor.region_of_balanced Brackets.distinct_round balanced front_rest
  exact ⟨condition, _, .call split read (ne_nil_of_mem_names member) region compiled, rfl⟩

/-- What is a simple selector is read as one. -/
lemma readsSimple_of_grammar {taken rest : Text} (nests : NestedAccepts nested accepted limit)
    (short : cursor.rest.length ≤ limit) (h : Simple accepted taken rest)
    (split : cursor.rest = taken ++ rest) :
    ∃ condition after, ReadsSimple nested cursor condition after ∧ after.rest = rest := by
  cases h with
  | tag nonempty run =>
    obtain ⟨c, later, rfl⟩ := List.exists_cons_of_ne_nil nonempty
    exact ⟨_, _, .tag split (run.all c (.head _)) (Cursor.takeWhile_of_run run split), rfl⟩
  | id nonempty run =>
    exact ⟨_, _, .id split (Cursor.takeWhile_of_run run rfl) nonempty, rfl⟩
  | hasClass nonempty run =>
    exact ⟨_, _, .hasClass split (Cursor.takeWhile_of_run run rfl) nonempty, rfl⟩
  | @universal run _ maximal =>
    have read : (cursor.past ['*'] (run ++ rest)).tag = (run, _) :=
      Cursor.takeWhile_of_run maximal rfl
    by_cases any : run = []
    · cases any
      exact ⟨_, _, .universal split read, rfl⟩
    · exact ⟨_, _, .universalTag split read any, rfl⟩
  | @attributeTest inner _ balanced accepts =>
    have region := Cursor.region_of_balanced Brackets.distinct_square balanced
      (split.trans (List.append_assoc ('[' :: inner) [']'] rest))
    obtain ⟨condition, tested⟩ := isOk_iff.1 (AttributeTest.attribute_isOk_iff.2 accepts)
    exact ⟨condition, _, .attributeTest split region tested, rfl⟩
  | plain run bare member =>
    obtain ⟨condition, compiled⟩ := isOk_iff.1 (PseudoClass.compile_plain_isOk_iff.2 member)
    exact ⟨condition, _, .plain split (Cursor.takeWhile_of_run run rfl)
      (ne_nil_of_mem_names member) bare compiled, rfl⟩
  | call all balanced takes => exact readsSimple_call nests short all balanced (.inl takes) split
  | nested all balanced member inner =>
    exact readsSimple_call nests short all balanced (.inr ⟨member, inner⟩) split

/-! ### Compounds -/

/-- A compound is a simple selector and then nothing or a compound. -/
lemma compound_iff {t : Text} :
    Grammar.Compound accepted t ↔ ∃ taken rest, t = taken ++ rest ∧ Simple accepted taken rest ∧
      (rest = [] ∨ Grammar.Compound accepted rest) := by
  constructor
  · intro h
    cases h with
    | last first => exact ⟨t, [], (List.append_nil t).symm, first, .inl rfl⟩
    | cons first later => exact ⟨_, _, rfl, first, .inr later⟩
  · intro h
    obtain ⟨taken, rest, rfl, first, rfl | later⟩ := h
    · rw [List.append_nil]
      exact .last first
    · exact .cons first later

/-- The simple selectors up to the end of a text are read if they make a compound, or if there are
none. -/
lemma simples_isOk_iff (nests : NestedAccepts nested accepted limit)
    (short : cursor.rest.length ≤ limit) :
    (simples nested cursor).isOk ↔ cursor.rest = [] ∨ Grammar.Compound accepted cursor.rest := by
  induction size : cursor.rest.length using Nat.strongRecOn generalizing cursor with
  | ind n ih =>
    -- Every simple selector takes a character, so the rest is shorter.
    have later {after : Cursor} (shorter : after.rest.length < cursor.rest.length) :
        (simples nested after).isOk ↔ after.rest = [] ∨ Grammar.Compound accepted after.rest :=
      ih _ (size ▸ shorter) (Nat.le_trans (Nat.le_of_lt shorter) short) rfl
    rw [simples_eq]
    cases first : cursor.rest with
    | nil => exact iff_of_true rfl (.inl rfl)
    | cons c rest =>
      dsimp only
      rw [← first, compound_iff]
      constructor
      · intro ok
        cases read : simple nested cursor c rest with
        | error e => rw [read] at ok; cases ok
        | ok result =>
          obtain ⟨condition, after⟩ := result
          rw [read] at ok
          dsimp only at ok
          rw [isOk_map, later (length_rest_simple first read)] at ok
          obtain ⟨taken, split, grammar⟩ :=
            grammar_of_readsSimple nests short ((simple_eq_ok_iff first).1 read)
          exact .inr ⟨taken, after.rest, split, grammar, ok⟩
      · intro h
        rcases h with none | ⟨taken, rest', split, grammar, more⟩
        · rw [first] at none
          cases none
        · obtain ⟨condition, after, reads, e⟩ := readsSimple_of_grammar nests short grammar split
          have read := (simple_eq_ok_iff first).2 reads
          rw [read]
          dsimp only
          rw [isOk_map, later (length_rest_simple first read), e]
          exact more

/-- A compound that is not empty is read if the grammar allows it. -/
theorem read_isOk_iff (nests : NestedAccepts nested accepted limit) {text : Text} {offset : Nat}
    (short : text.length ≤ limit) (nonempty : text ≠ []) :
    (read nested text offset).isOk ↔ Grammar.Compound accepted text := by
  rw [read, isOk_map]
  exact (simples_isOk_iff nests short).trans (or_iff_right nonempty)

end Compound

/-! ### Alternatives -/

/-- What may follow in an alternative after what has been read of it. -/
def Continues (compound : Text → Prop) : Chain → List Token → Prop
  | .start, tokens => Alternative compound tokens
  | .complete _, tokens => tokens = [] ∨ ∃ k offset later,
    tokens = .separator (.combinator k) offset :: later ∧ Chained compound later
  | .awaiting .., tokens => Chained compound tokens

section
variable {compound : Text → Prop} {text : Text} {offset : Nat} {chain : Chain}
  {tokens : List Token}

/-- Tokens may end where a chain is complete, and only there. -/
lemma continues_nil_iff :
    Continues compound chain [] ↔ ∃ condition, chain = .complete condition := by
  cases chain with
  | start =>
    refine iff_of_false ?_ nofun
    intro h
    obtain ⟨⟨⟩⟩ := h
  | complete condition => exact iff_of_true (.inl rfl) ⟨condition, rfl⟩
  | awaiting left k o =>
    refine iff_of_false ?_ nofun
    intro h
    cases h

/-- An alternative goes on with a compound if the chain does. -/
lemma continues_compound_iff
    (reads : (Compound.read nested text offset).isOk ↔ compound text) :
    Continues compound chain (.compound text offset :: tokens) ↔
      ∃ chain', chain.compound nested text offset = .ok chain' ∧
        Continues compound chain' tokens := by
  have completed (f : Condition → Condition) :
      Chained compound (.compound text offset :: tokens) ↔ ∃ chain',
        (Compound.read nested text offset).map (fun condition => .complete (f condition)) =
          .ok chain' ∧ Continues compound chain' tokens := by
    rw [chained_compound_iff, ← reads, isOk_iff]
    constructor
    · intro h
      obtain ⟨⟨condition, read⟩, later⟩ := h
      exact ⟨_, map_eq_ok_iff.2 ⟨condition, read, rfl⟩, later⟩
    · intro h
      obtain ⟨chain', read, later⟩ := h
      obtain ⟨condition, means, rfl⟩ := map_eq_ok_iff.1 read
      exact ⟨⟨condition, means⟩, later⟩
  cases chain with
  | start =>
    have absolute : Alternative compound (.compound text offset :: tokens) ↔
        Chained compound (.compound text offset :: tokens) := by
      refine ⟨fun h => ?_, .absolute⟩
      cases h
      assumption
    rw [Chain.compound_start]
    exact absolute.trans (completed id)
  | awaiting left k o =>
    rw [Chain.compound_awaiting]
    exact completed fun right => left.combine k right
  | complete condition =>
    refine iff_of_false ?_ ?_
    · intro h
      rcases h with none | ⟨_, _, _, e, _⟩
      · cases none
      · cases e
    · intro h
      obtain ⟨chain', read, _⟩ := h
      unfold Chain.compound at read
      split at read <;> cases read

/-- An alternative goes on with a combinator if the chain does. -/
lemma continues_combinator_iff {query : Query} {k : Combinator} :
    Continues compound chain (.separator (.combinator k) offset :: tokens) ↔
      ∃ chain', chain.combinator query k offset = .ok chain' ∧
        Continues compound chain' tokens := by
  cases chain with
  | start =>
    constructor
    · intro h
      rcases h with h | h
      · cases h
      · exact ⟨_, rfl, h⟩
    · intro h
      obtain ⟨_, ⟨⟩, h⟩ := h
      exact .relative h
  | complete condition =>
    constructor
    · intro h
      rcases h with none | ⟨_, _, _, e, h⟩
      · cases none
      · cases e
        exact ⟨_, rfl, h⟩
    · intro h
      obtain ⟨_, ⟨⟩, h⟩ := h
      exact .inr ⟨k, offset, tokens, rfl, h⟩
  | awaiting left k' o =>
    refine iff_of_false ?_ ?_
    · intro h
      cases h
    · intro h
      obtain ⟨_, ⟨⟩, _⟩ := h

/-- Progress can be finished where its last chain is complete. -/
lemma finish_isOk_iff {progress : Progress} {base : Nat} :
    (progress.finish base).isOk ↔ ∃ condition, progress.chain = .complete condition := by
  simp only [isOk_iff, Progress.finish_eq_ok_iff]
  constructor
  · intro h
    obtain ⟨_, last, complete, -⟩ := h
    exact ⟨last, complete⟩
  · intro h
    obtain ⟨last, complete⟩ := h
    exact ⟨_, last, complete, rfl⟩

/-- An alternative goes on with any token but a comma if the progress does. -/
lemma continues_cons_iff {query : Query} {progress : Progress} {token : Token}
    (reads : ∀ text offset, token = .compound text offset →
      ((Compound.read nested text offset).isOk ↔ compound text))
    (inside : isComma token = false) :
    Continues compound progress.chain (token :: tokens) ↔
      ∃ next, progress.step nested query token = .ok next ∧
        Continues compound next.chain tokens := by
  have moved {result : Except Error Chain} :
      (∃ chain, result = .ok chain ∧ Continues compound chain tokens) ↔
        ∃ next : Progress, result.map (fun chain => { progress with chain := chain }) = .ok next ∧
          Continues compound next.chain tokens := by
    constructor
    · intro h
      obtain ⟨chain, e, continues⟩ := h
      exact ⟨_, map_eq_ok_iff.2 ⟨chain, e, rfl⟩, continues⟩
    · intro h
      obtain ⟨next, e, continues⟩ := h
      obtain ⟨chain, e', rfl⟩ := map_eq_ok_iff.1 e
      exact ⟨chain, e', continues⟩
  cases token with
  | compound text offset =>
    rw [continues_compound_iff (reads text offset rfl)]
    exact moved
  | separator mark offset =>
    cases mark with
    | comma => cases inside
    | combinator k =>
      rw [continues_combinator_iff]
      exact moved

/-- A comma needs a complete alternative before it and starts another one after it. -/
lemma step_comma_iff {query : Query} {progress : Progress} {token : Token}
    (comma : isComma token) {P : Chain → Prop} :
    (∃ next, progress.step nested query token = .ok next ∧ P next.chain) ↔
      (∃ condition, progress.chain = .complete condition) ∧ P .start := by
  cases token with
  | compound => cases comma
  | separator mark offset =>
    cases mark with
    | combinator k => cases comma
    | comma =>
      simp only [Progress.step_comma_eq_ok_iff]
      constructor
      · intro h
        obtain ⟨_, ⟨last, complete, rfl⟩, holds⟩ := h
        exact ⟨⟨last, complete⟩, holds⟩
      · intro h
        obtain ⟨⟨last, complete⟩, holds⟩ := h
        exact ⟨_, ⟨last, complete, rfl⟩, holds⟩

/-- The tokens up to the next comma continue the open alternative, and those between commas are
alternatives of their own. -/
lemma foldlM_step_iff {query : Query} {base : Nat} {progress : Progress} {first : List Token}
    {later : List (List Token)}
    (reads : ∀ text offset, .compound text offset ∈ tokens →
      ((Compound.read nested text offset).isOk ↔ compound text))
    (split : tokens.splitOnP isComma = first :: later) :
    (∃ last, tokens.foldlM (Progress.step nested query) progress = .ok last ∧
        (last.finish base).isOk) ↔
      Continues compound progress.chain first ∧
        ∀ alternative ∈ later, Alternative compound alternative := by
  induction tokens generalizing progress first later with
  | nil =>
    obtain ⟨rfl, rfl⟩ := List.cons.inj split
    refine Iff.trans ?_ (and_congr_left' continues_nil_iff).symm
    constructor
    · intro h
      obtain ⟨last, e, finished⟩ := h
      cases e
      exact ⟨finish_isOk_iff.1 finished, nofun⟩
    · intro h
      obtain ⟨complete, -⟩ := h
      exact ⟨progress, rfl, finish_isOk_iff.2 complete⟩
  | cons token tokens ih =>
    obtain ⟨first', later', split'⟩ :=
      List.exists_cons_of_ne_nil (List.splitOnP_ne_nil isComma tokens)
    have rest (next : Progress) :
        (∃ last, tokens.foldlM (Progress.step nested query) next = .ok last ∧
          (last.finish base).isOk) ↔
            Continues compound next.chain first' ∧
              ∀ alternative ∈ later', Alternative compound alternative :=
      ih (fun text offset member => reads text offset (.tail _ member)) split'
    have stepped : (∃ last, (token :: tokens).foldlM (Progress.step nested query) progress =
        .ok last ∧ (last.finish base).isOk) ↔
          ∃ next, progress.step nested query token = .ok next ∧
            Continues compound next.chain first' ∧
              ∀ alternative ∈ later', Alternative compound alternative := by
      constructor
      · intro h
        obtain ⟨last, folded, finished⟩ := h
        obtain ⟨next, step, folded⟩ := foldlM_cons_eq_ok_iff.1 folded
        exact ⟨next, step, (rest next).1 ⟨last, folded, finished⟩⟩
      · intro h
        obtain ⟨next, step, continues⟩ := h
        obtain ⟨last, folded, finished⟩ := (rest next).2 continues
        exact ⟨last, foldlM_cons_eq_ok_iff.2 ⟨next, step, folded⟩, finished⟩
    rw [stepped]
    -- A comma leaves nothing of the open alternative; any other token stands at its front.
    rw [List.splitOnP_cons_eq_if_modifyHead, split'] at split
    split at split
    · rename_i comma
      obtain ⟨rfl, rfl⟩ := List.cons.inj split
      rw [List.forall_mem_cons, continues_nil_iff]
      exact step_comma_iff comma (P := fun chain => Continues compound chain first' ∧
        ∀ alternative ∈ later', Alternative compound alternative)
    · rename_i inside
      obtain ⟨rfl, rfl⟩ := List.cons.inj split
      rw [continues_cons_iff (fun text offset e => reads text offset (e ▸ .head _))
        (Bool.eq_false_iff.2 inside)]
      exact ⟨fun ⟨next, step, continues, rest⟩ => ⟨⟨next, step, continues⟩, rest⟩,
        fun ⟨⟨next, step, continues⟩, rest⟩ => ⟨next, step, continues, rest⟩⟩

end

/-! ### Selectors -/

/-- A selector is compiled if its tokens are alternatives with commas between them. -/
theorem compile_isOk_iff {text : Text} (nests : NestedAccepts nested accepted text.length)
    (base : Nat) :
    (Query.compile nested ⟨text, base⟩).isOk ↔
      ∃ tokens, (Cursor.start base text).tokens.1 = .ok tokens ∧
        ∀ alternative ∈ tokens.splitOnP isComma,
          Alternative (Grammar.Compound accepted) alternative := by
  have folds {tokens : List Token} (read : (Cursor.start base text).tokens.1 = .ok tokens) :
      (∃ last, tokens.foldlM (Progress.step nested ⟨text, base⟩) Progress.start = .ok last ∧
        (last.finish base).isOk) ↔
          ∀ alternative ∈ tokens.splitOnP isComma,
            Alternative (Grammar.Compound accepted) alternative := by
    obtain ⟨first, later, split⟩ := List.exists_cons_of_ne_nil (List.splitOnP_ne_nil isComma tokens)
    rw [split, List.forall_mem_cons]
    refine foldlM_step_iff (fun text' offset member => ?_) split
    exact Compound.read_isOk_iff nests (short_of_mem_tokens read _ member)
      (ne_nil_of_mem_tokens read member)
  rw [isOk_iff]
  constructor
  · intro h
    obtain ⟨condition, compiled⟩ := h
    obtain ⟨tokens, last, read, folded, finished⟩ := Query.compile_eq_ok_iff.1 compiled
    exact ⟨tokens, read, (folds read).1 ⟨last, folded, isOk_iff.2 ⟨condition, finished⟩⟩⟩
  · intro h
    obtain ⟨tokens, read, alternatives⟩ := h
    obtain ⟨last, folded, finished⟩ := (folds read).2 alternatives
    obtain ⟨condition, finished⟩ := isOk_iff.1 finished
    exact ⟨condition, Query.compile_eq_ok_iff.2 ⟨tokens, last, read, folded, finished⟩⟩

/-- A text is accepted if its alternatives are, with any accepted text inside its arguments. -/
theorem accepted_iff {text : Text} :
    Accepted text ↔ ∃ tokens, (Cursor.start 0 text).tokens.1 = .ok tokens ∧
      ∀ alternative ∈ tokens.splitOnP isComma,
        Alternative (Grammar.Compound Accepted) alternative := by
  constructor
  · intro h
    obtain ⟨read, alternatives⟩ := h
    exact ⟨_, read, alternatives⟩
  · intro h
    obtain ⟨tokens, read, alternatives⟩ := h
    exact .intro read alternatives

/-- A text is accepted as a selector if it is written by the rules of the grammar, and is refused
otherwise. -/
theorem parse_iff_accepted (text : Text) :
    (∃ condition, parse text = .ok condition) ↔ Accepted text := by
  rw [← isOk_iff, parse]
  induction size : text.length using Nat.strongRecOn generalizing text with
  | ind n ih =>
    have nests : NestedAccepts parseAt Accepted text.length := by
      intro inner offset shorter
      -- At another offset only the places of errors change.
      rw [← Nat.add_zero offset, parseAt_shift, isOk_mapError]
      exact ih inner.length (size ▸ shorter) inner rfl
    rw [parseAt_eq_compile, compile_isOk_iff nests, accepted_iff]

end TreeQuery.Selector
