import Mathlib.Tactic.Lemma
import Mathlib.Tactic.SplitIfs
import TreeQuery.Proofs.Selector.Reading

/-!
# Reading elsewhere

Where a selector stands in a longer text changes the offsets in what is read from it and nothing
else: conditions are the same, and errors are shifted.  Along the way one sees that a selector hands
only shorter texts to the reader of the selectors inside it.  Main statements: `parseAt_eq_compile`,
which frees the compiler of its bound on these texts, and `parseAt_shift`.
-/

namespace TreeQuery.Selector

/-- The cursor in front of the same text, `base` bytes further right. -/
def Cursor.shift (base : Nat) (cursor : Cursor) : Cursor :=
  { cursor with offset := base + cursor.offset }

/-- The token `base` bytes further right. -/
def Token.shift (base : Nat) : Token → Token
  | .compound text offset => .compound text (base + offset)
  | .separator mark offset => .separator mark (base + offset)

/-- What a reader answers `base` bytes further right, where `f` shifts what it reads. -/
def shifted {α : Type} (base : Nat) (f : α → α) (result : Except Error α × Cursor) :
    Except Error α × Cursor :=
  ((result.1.map f).mapError (.shift base), result.2.shift base)

/-- A value that is read further right is shifted with its cursor. -/
lemma shifted_ok {α : Type} (base : Nat) (f : α → α) (a : α) (cursor : Cursor) :
    shifted base f (.ok a, cursor) = (.ok (f a), cursor.shift base) := rfl

/-! ### Regions -/

namespace Region

/-- The open quote `base` bytes further right. -/
def shiftQuote (base : Nat) (quote : Option (Char × Nat)) : Option (Char × Nat) :=
  quote.map fun (q, offset) => (q, base + offset)

/-- The state `base` bytes further right. -/
def State.shift (base : Nat) (state : State) : State :=
  { state with quote := shiftQuote base state.quote }

/-- The outcome `base` bytes further right. -/
def shift (base : Nat) : Region → Region
  | closed body rest => closed body rest
  | unfinished quote => unfinished (shiftQuote base quote)

/-- A step further right is the step shifted. -/
lemma step_shift (brackets : Brackets) (base offset : Nat) (state : State) (c : Char) :
    (state.shift base).step brackets (base + offset) c =
      (state.step brackets offset c).map (.shift base) := by
  obtain ⟨depth, quote, escaped⟩ := state
  change State.step brackets ⟨depth, shiftQuote base quote, escaped⟩ (base + offset) c = _
  cases quote with
  | none =>
    change State.step brackets ⟨depth, none, escaped⟩ (base + offset) c = _
    simp only [State.step]
    split_ifs <;> rfl
  | some opened =>
    change State.step brackets ⟨depth, some (opened.1, base + opened.2), escaped⟩ _ c = _
    simp only [State.step]
    split_ifs <;> rfl

/-- A scan further right is the scan shifted. -/
lemma scan_shift (brackets : Brackets) (base offset : Nat) (state : State) (t : Text) :
    scan brackets (state.shift base) (base + offset) t =
      (scan brackets state offset t).shift base := by
  induction t generalizing state offset with
  | nil => rfl
  | cons c t ih =>
    rw [scan, scan, step_shift]
    cases state.step brackets offset c with
    | none => rfl
    | some next =>
      simp only [Option.map_some]
      rw [Nat.add_assoc, ih]
      cases scan brackets next (offset + c.utf8Size) t <;> rfl

end Region

/-! ### Tokens -/

namespace Cursor

/-- The text in front of the cursor stays. -/
lemma rest_shift (base : Nat) (cursor : Cursor) : (cursor.shift base).rest = cursor.rest := rfl

/-- Moving and shifting a cursor commute. -/
lemma shift_past (base : Nat) (cursor : Cursor) (taken rest : Text) :
    (cursor.shift base).past taken rest = (cursor.past taken rest).shift base := by
  simp [shift, past, Nat.add_assoc]

/-- Characters are taken the same further right. -/
lemma takeWhile_shift (base : Nat) (p : Char → Bool) (cursor : Cursor) :
    (cursor.shift base).takeWhile p =
      ((cursor.takeWhile p).1, (cursor.takeWhile p).2.shift base) := by
  rw [takeWhile, shift_past]
  rfl

/-- A region is read the same further right. -/
lemma region_shift (base : Nat) (brackets : Brackets) (cursor : Cursor) :
    (cursor.shift base).region brackets = shifted base id (cursor.region brackets) := by
  obtain ⟨offset, rest, afterCompound⟩ := cursor
  cases rest with
  | nil => rfl
  | cons c rest =>
    have same := Region.scan_shift brackets base (offset + c.utf8Size) (.start brackets) rest
    have start : (Region.State.start brackets).shift base = .start brackets := rfl
    rw [start, ← Nat.add_assoc] at same
    unfold region
    simp only [shift]
    split
    · rw [same]
      cases Region.scan brackets (.start brackets) (offset + c.utf8Size) rest with
      | closed body after =>
        simp [Region.shift, shifted, past, shift, Nat.add_assoc, Except.map, Except.mapError]
      | unfinished quote =>
        cases quote <;>
          simp [Region.shift, Region.shiftQuote, shifted, past, shift, Nat.add_assoc, Except.map,
            Except.mapError, Error.shift]
    · rfl

/-- A compound is read the same further right. -/
lemma compound_shift (base : Nat) (cursor : Cursor) :
    (cursor.shift base).compound = shifted base id cursor.compound := by
  induction size : cursor.rest.length using Nat.strongRecOn generalizing cursor with
  | ind n ih =>
    rw [compound_eq, compound_eq cursor, rest_shift]
    cases rest : cursor.rest with
    | nil => rfl
    | cons c rest' =>
      rw [rest] at size
      dsimp only
      cases Brackets.ofOpening? c with
      | some brackets =>
        dsimp only
        rw [region_shift]
        cases region : cursor.region brackets with
        | mk result after =>
          cases result with
          | error e => rfl
          | ok body =>
            have shorter := Compound.length_rest_region region
            rw [rest, size] at shorter
            have deeper := ih after.rest.length shorter after rfl
            rw [shifted_ok]
            dsimp only
            rw [deeper]
            cases after.compound with
            | mk result last => cases result <;> rfl
      | none =>
        dsimp only
        split
        · rfl
        · have deeper := ih rest'.length (size ▸ Nat.lt_succ_self _) (cursor.past [c] rest') rfl
          rw [shift_past, deeper]
          cases (cursor.past [c] rest').compound with
          | mk result last => cases result <;> rfl

/-- White space is skipped the same further right. -/
lemma blanks_shift (base : Nat) (cursor : Cursor) :
    (cursor.shift base).blanks = (cursor.blanks.1, cursor.blanks.2.shift base) := by
  unfold blanks
  rw [takeWhile_shift]

/-- A token is read the same further right. -/
lemma next_shift (base : Nat) (cursor : Cursor) :
    (cursor.shift base).next = shifted base (Option.map (.shift base)) cursor.next := by
  unfold next
  rw [blanks_shift]
  dsimp only
  generalize cursor.blanks.1 = blank
  generalize cursor.blanks.2 = front
  rw [rest_shift]
  cases rest : front.rest with
  | nil => rfl
  | cons c rest' =>
    dsimp only
    cases Separator.ofChar? c with
    | some separator =>
      dsimp only
      rw [shift_past, blanks_shift]
      rfl
    | none =>
      dsimp only
      change (if (blank && front.afterCompound) = true then _ else _) = _
      split
      · simp only [shifted_ok, shift, rest]
        rfl
      · rw [compound_shift]
        cases front.compound with
        | mk result after => cases result <;> rfl

/-- Tokens are read the same further right. -/
lemma tokens_shift (base : Nat) (cursor : Cursor) :
    (cursor.shift base).tokens = shifted base (List.map (.shift base)) cursor.tokens := by
  induction size : cursor.rest.length using Nat.strongRecOn generalizing cursor with
  | ind n ih =>
    rw [tokens_eq, tokens_eq cursor, next_shift]
    cases next : cursor.next with
    | mk result after =>
      cases result with
      | error e => rfl
      | ok token =>
        cases token with
        | none => rfl
        | some token =>
          have deeper := ih after.rest.length (size ▸ length_rest_next next) after rfl
          rw [shifted_ok]
          dsimp only [Option.map_some]
          rw [deeper]
          cases after.tokens with
          | mk result last => cases result <;> rfl

end Cursor

/-- The selector `base` bytes further right. -/
def Query.shift (base : Nat) (query : Query) : Query := ⟨query.text, base + query.base⟩

/-- The text from an offset is the same further right. -/
lemma textFrom_shift (base : Nat) (query : Query) (offset : Nat) :
    (query.shift base).textFrom (base + offset) = query.textFrom offset := by
  unfold Query.textFrom Query.shift
  rw [Nat.add_sub_add_left]

/-- A compound is not longer than the limit. -/
def Token.Short (limit : Nat) : Token → Prop
  | .compound text _ => text.length ≤ limit
  | .separator .. => True

/-- No token is longer than the text that it is read from. -/
lemma short_of_next {cursor after : Cursor} {token : Token}
    (h : cursor.next = (.ok (some token), after)) : token.Short cursor.rest.length := by
  cases token with
  | separator => trivial
  | compound text offset =>
    obtain ⟨c, rest, last, -, -, read, -⟩ := Cursor.exists_compound_of_next h
    have taken := (Cursor.compound_reads read).length_eq
    have front_le := Compound.length_rest_takeWhile Text.isBlank cursor
    exact Nat.le_trans (Nat.le.intro taken.symm) front_le

/-- A token of a text is not longer than the text. -/
lemma short_of_mem_tokens {cursor : Cursor} {tokens : List Token}
    (h : cursor.tokens.1 = .ok tokens) : ∀ token ∈ tokens, token.Short cursor.rest.length := by
  induction size : cursor.rest.length using Nat.strongRecOn generalizing cursor tokens with
  | ind n ih =>
    rw [Cursor.tokens_eq] at h
    split at h
    · cases h
    · cases h
      nofun
    · rename_i token after next
      cases read : after.tokens.1 with
      | error e =>
        rw [read] at h
        cases h
      | ok later =>
        rw [read] at h
        cases h
        intro t member
        rcases List.mem_cons.1 member with rfl | member
        · exact size ▸ short_of_next next
        · have shorter := Cursor.length_rest_next next
          have short := ih after.rest.length (size ▸ shorter) read rfl t member
          cases t with
          | compound text offset =>
            exact Nat.le_trans short (Nat.le_of_lt (size ▸ shorter))
          | separator => trivial

variable [PatternEngine]

/-! ### Compounds -/

/-- A reader of inner selectors does `base` bytes further right what another one does here, for
texts of less than `limit` characters.  -/
def NestedShift (base limit : Nat) (there here : Nested) : Prop :=
  ∀ inner offset, inner.length < limit →
    there inner (base + offset) = (here inner offset).mapError (.shift base)

variable {base limit : Nat} {there here : Nested}

/-- An attribute test is read the same further right. -/
lemma attributeTest_shift (base : Nat) (inner : Text) (offset : Nat) :
    AttributeTest.read inner (base + offset) =
      (AttributeTest.read inner offset).mapError (.shift base) := by
  unfold AttributeTest.read
  dsimp only
  cases inner.dropWhile (· != '=') with
  | nil => cases AttributeTest.readName inner <;> rfl
  | cons c after =>
    dsimp only
    split_ifs
    · rfl
    · rfl
    · cases (AttributeTest.splitOperator (inner.takeWhile (· != '='))).2 with
      | compare comparison => rfl
      | matchPattern =>
        dsimp only
        cases PatternEngine.compile (Text.trim (AttributeTest.unquote (Text.trim after))) <;> rfl

/-- An error is explained the same further right. -/
lemma explain_shift (base : Nat) (name argument : Text) (offset : Nat)
    (result : Except Reason Condition) :
    Parameter.read.explain name argument (base + offset) result =
      (Parameter.read.explain name argument offset result).mapError (.shift base) := by
  cases result <;> rfl

/-- A parameter is read the same further right. -/
lemma parameter_shift (nests : NestedShift base limit there here) {argument : Text}
    (short : argument.length < limit) (name : Text) (offset : Nat) (parameter : Parameter) :
    parameter.read there name argument (base + offset) =
      (parameter.read here name argument offset).mapError (.shift base) := by
  cases parameter with
  | has =>
    unfold Parameter.read
    rw [nests argument offset short]
    cases here argument offset <;> rfl
  | not =>
    unfold Parameter.read
    rw [nests argument offset short]
    cases here argument offset <;> rfl
  | _ => exact explain_shift ..

/-- A pseudo-class compiles the same further right, with the place of its argument. -/
lemma pseudoClass_compile_shift (nests : NestedShift base limit there here) (name : Text)
    (offset : Nat) {a : Option (Text × Nat)} (short : ∀ argument ∈ a, argument.1.length < limit) :
    PseudoClass.compile there name (base + offset) (a.map fun a => (a.1, base + a.2)) =
      (PseudoClass.compile here name offset a).mapError (.shift base) := by
  unfold PseudoClass.compile
  cases PseudoClass.ofName? name with
  | none => rfl
  | some pseudoClass =>
    cases pseudoClass with
    | plain condition => cases a <;> rfl
    | withArgument parameter =>
      cases a with
      | none => rfl
      | some argument => exact parameter_shift nests (short argument rfl) name argument.2 parameter

/-- A pseudo-class is read the same further right. -/
lemma pseudoClass_shift (nests : NestedShift base limit there here) (colon : Nat) {cursor : Cursor}
    (short : cursor.rest.length ≤ limit) :
    Compound.pseudoClass there (base + colon) (cursor.shift base) =
      ((Compound.pseudoClass here colon cursor).map fun (condition, after) =>
        (condition, after.shift base)).mapError (.shift base) := by
  unfold Compound.pseudoClass Cursor.name
  rw [Cursor.takeWhile_shift]
  have taken := Compound.length_rest_takeWhile isNameChar cursor
  generalize (cursor.takeWhile isNameChar).1 = name at taken ⊢
  generalize (cursor.takeWhile isNameChar).2 = front at taken ⊢
  dsimp only
  change (if name.isEmpty = true then _ else if front.peek = some '(' then _ else _) = _
  split_ifs
  · rfl
  · rw [Cursor.region_shift]
    cases region : front.region .round with
    | mk result after =>
      cases result with
      | error e => rfl
      | ok argument =>
        have shorter := (Cursor.region_reads region).length_eq
        have inside : argument.length < limit := by simp at shorter; omega
        have same : PseudoClass.compile there name (base + colon)
            (some (argument, base + (front.offset + 1))) =
              (PseudoClass.compile here name colon (some (argument, front.offset + 1))).mapError
                (.shift base) :=
          pseudoClass_compile_shift nests name colon (a := some (argument, front.offset + 1))
            fun _ e => by cases e; exact inside
        rw [← Nat.add_assoc] at same
        simp only [shifted_ok, id, Cursor.shift, same]
        cases PseudoClass.compile here name colon (some (argument, front.offset + 1)) <;> rfl
  · have same := pseudoClass_compile_shift nests name colon (a := none) nofun
    rw [Option.map_none] at same
    rw [same]
    cases PseudoClass.compile here name colon none <;> rfl

/-- A simple selector is read the same further right. -/
lemma simple_shift (nests : NestedShift base limit there here) {cursor : Cursor} {c : Char}
    {rest : Text} (short : (c :: rest).length ≤ limit) :
    Compound.simple there (cursor.shift base) c rest =
      ((Compound.simple here cursor c rest).map fun (condition, after) =>
        (condition, after.shift base)).mapError (.shift base) := by
  unfold Compound.simple Cursor.name Cursor.tag
  rw [Cursor.shift_past]
  simp only [Cursor.takeWhile_shift]
  split
  · split_ifs <;> rfl
  · split_ifs <;> rfl
  · split_ifs <;> rfl
  · rw [Cursor.region_shift]
    cases region : cursor.region .square with
    | mk result after =>
      cases result with
      | error e => rfl
      | ok inner =>
        simp only [shifted_ok, id, Cursor.shift, attributeTest_shift]
        cases AttributeTest.read inner cursor.offset <;> rfl
  · exact pseudoClass_shift nests cursor.offset (Nat.le_of_succ_le short)
  · split_ifs <;> rfl

/-- Simple selectors are read the same further right. -/
lemma simples_shift (nests : NestedShift base limit there here) {cursor : Cursor}
    (short : cursor.rest.length ≤ limit) :
    Compound.simples there (cursor.shift base) =
      (Compound.simples here cursor).mapError (.shift base) := by
  induction size : cursor.rest.length using Nat.strongRecOn generalizing cursor with
  | ind n ih =>
    rw [Compound.simples_eq, Compound.simples_eq here, Cursor.rest_shift]
    cases rest : cursor.rest with
    | nil => rfl
    | cons c rest' =>
      dsimp only
      rw [simple_shift nests (rest ▸ short)]
      cases simple : Compound.simple here cursor c rest' with
      | error e => rfl
      | ok read =>
        obtain ⟨condition, after⟩ := read
        have shorter := Compound.length_rest_simple rest simple
        simp only [Except.map, Except.mapError]
        rw [ih after.rest.length (size ▸ shorter) (Nat.le_trans (Nat.le_of_lt shorter) short) rfl]
        cases Compound.simples here after <;> rfl

/-- A compound compiles the same further right. -/
lemma compound_read_shift (nests : NestedShift base limit there here) {text : Text}
    (short : text.length ≤ limit) (offset : Nat) :
    Compound.read there text (base + offset) =
      (Compound.read here text offset).mapError (.shift base) := by
  unfold Compound.read
  have same : Compound.simples there ((Cursor.start offset text).shift base) = _ :=
    simples_shift nests short
  change (Compound.simples there ((Cursor.start offset text).shift base)).map _ = _
  rw [same]
  cases Compound.simples here (Cursor.start offset text) <;> rfl

/-! ### Selectors -/

/-- The chain `base` bytes further right. -/
def Chain.shift (base : Nat) : Chain → Chain
  | .start => .start
  | .complete condition => .complete condition
  | .awaiting left combinator offset => .awaiting left combinator (base + offset)

/-- The progress `base` bytes further right. -/
def Progress.shift (base : Nat) (progress : Progress) : Progress :=
  ⟨progress.finished, progress.chain.shift base, progress.comma.map (base + ·)⟩

/-- A compound goes on with a chain the same further right. -/
lemma chain_compound_shift (nests : NestedShift base limit there here) {text : Text}
    (short : text.length ≤ limit) (offset : Nat) (chain : Chain) :
    (chain.shift base).compound there text (base + offset) =
      ((chain.compound here text offset).map (.shift base)).mapError (.shift base) := by
  unfold Chain.compound
  rw [compound_read_shift nests short]
  cases Compound.read here text offset with
  | error e => rfl
  | ok condition => cases chain <;> rfl

/-- A combinator goes on with a chain the same further right. -/
lemma chain_combinator_shift (query : Query) (next : Combinator) (offset : Nat) (chain : Chain) :
    (chain.shift base).combinator (query.shift base) next (base + offset) =
      ((chain.combinator query next offset).map (.shift base)).mapError (.shift base) := by
  cases chain with
  | awaiting left combinator o =>
    unfold Chain.combinator
    simp only [Chain.shift, textFrom_shift]
    rfl
  | _ => rfl

/-- A chain is finished the same further right. -/
lemma chain_finish_shift (anchor : Nat) (chain : Chain) :
    (chain.shift base).finish (base + anchor) = (chain.finish anchor).mapError (.shift base) := by
  cases chain <;> rfl

/-- A token leads to the same further right. -/
lemma step_shift (nests : NestedShift base limit there here) {token : Token}
    (short : token.Short limit) (query : Query) (progress : Progress) :
    (progress.shift base).step there (query.shift base) (token.shift base) =
      ((progress.step here query token).map (.shift base)).mapError (.shift base) := by
  cases token with
  | compound text offset =>
    simp only [Progress.step, Progress.shift, Token.shift, chain_compound_shift nests short]
    cases progress.chain.compound here text offset <;> rfl
  | separator mark offset =>
    cases mark with
    | comma =>
      simp only [Progress.step, Progress.shift, Token.shift, chain_finish_shift]
      cases progress.chain.finish offset <;> rfl
    | combinator next =>
      simp only [Progress.step, Progress.shift, Token.shift, chain_combinator_shift]
      cases progress.chain.combinator query next offset <;> rfl

/-- Several tokens lead to the same further right. -/
lemma foldlM_step_shift (nests : NestedShift base limit there here) {tokens : List Token}
    (short : ∀ token ∈ tokens, token.Short limit) (query : Query) (progress : Progress) :
    (tokens.map (.shift base)).foldlM (Progress.step there (query.shift base))
        (progress.shift base) =
      ((tokens.foldlM (Progress.step here query) progress).map (.shift base)).mapError
        (.shift base) := by
  induction tokens generalizing progress with
  | nil => rfl
  | cons token tokens ih =>
    rw [List.map_cons, List.foldlM_cons, List.foldlM_cons,
      step_shift nests (short token (.head _))]
    cases progress.step here query token with
    | error e => rfl
    | ok next => exact ih (fun t h => short t (.tail _ h)) next

/-- Progress is finished the same further right. -/
lemma progress_finish_shift (b : Nat) (progress : Progress) :
    (progress.shift base).finish (base + b) = (progress.finish b).mapError (.shift base) := by
  obtain ⟨finished, chain, comma⟩ := progress
  cases chain <;> cases comma <;> rfl

/-- A selector compiles the same further right. -/
lemma compile_shift {text : Text} (nests : NestedShift base text.length there here) (b : Nat) :
    Query.compile there ⟨text, base + b⟩ =
      (Query.compile here ⟨text, b⟩).mapError (.shift base) := by
  have same := Cursor.tokens_shift base (.start b text)
  have start : (Cursor.start b text).shift base = .start (base + b) text := rfl
  rw [start] at same
  unfold Query.compile
  rw [same]
  cases read : (Cursor.start b text).tokens.1 with
  | error e => simp only [shifted, read]; rfl
  | ok tokens =>
    have short := short_of_mem_tokens read
    have folded : (tokens.map (.shift base)).foldlM (Progress.step there ⟨text, base + b⟩) .start =
        ((tokens.foldlM (Progress.step here ⟨text, b⟩) .start).map (.shift base)).mapError
          (.shift base) := foldlM_step_shift nests short ⟨text, b⟩ .start
    simp only [shifted, read, Except.map, Except.mapError] at folded ⊢
    rw [folded]
    cases tokens.foldlM (Progress.step here ⟨text, b⟩) .start with
    | error e => rfl
    | ok progress => exact progress_finish_shift b progress

/-- What the reader of inner selectors does with texts as long as the whole does not matter. -/
lemma compile_congr {nested nested' : Nested} {text : Text}
    (same : ∀ inner offset, inner.length < text.length → nested inner offset = nested' inner offset)
    (b : Nat) : Query.compile nested ⟨text, b⟩ = Query.compile nested' ⟨text, b⟩ := by
  have unmoved {α : Type} (result : Except Error α) : result.mapError (.shift 0) = result := by
    cases result with
    | error e => exact congrArg Except.error (Error.shift_zero e)
    | ok a => rfl
  -- Two readers that agree are a shift by nothing.
  have nests : NestedShift 0 text.length nested nested' := by
    intro inner offset short
    rw [Nat.zero_add, unmoved]
    exact same inner offset short
  have moved := compile_shift nests b
  rwa [Nat.zero_add, unmoved] at moved

/-- A selector is compiled with itself as the reader of the selectors inside it. -/
theorem parseAt_eq_compile (text : Text) (base : Nat) :
    parseAt text base = Query.compile parseAt ⟨text, base⟩ := by
  rw [parseAt]
  refine compile_congr (fun inner offset short => ?_) base
  rw [dif_pos short]

/-- Further right a selector means the same, and its errors are found further right. -/
theorem parseAt_shift (text : Text) (base b : Nat) :
    parseAt text (base + b) = (parseAt text b).mapError (.shift base) := by
  induction size : text.length using Nat.strongRecOn generalizing text b with
  | ind n ih =>
    rw [parseAt_eq_compile, parseAt_eq_compile text b]
    exact compile_shift
      (fun inner offset short => ih inner.length (size ▸ short) inner offset rfl) b

end TreeQuery.Selector
