import Mathlib.Tactic.Lemma
import TreeQuery.Proofs.Text.LetterCase
import TreeQuery.Selector.Parse

/-!
# Equations of the readers

The readers of compounds, tokens and simple selectors recurse on what is left of the text.  Here
each of them is one step followed by itself, without the proofs that the recursion carries.
-/

namespace TreeQuery.Selector

section

variable {ε ε' α β : Type} {result : Except ε α}

/-- A result is fine if it holds a value. -/
lemma isOk_iff : result.isOk ↔ ∃ a, result = .ok a := by
  cases result <;> simp [Except.toBool]

/-- A function of the value keeps whether there is one. -/
lemma isOk_map {f : α → β} : (result.map f).isOk = result.isOk := by
  cases result <;> rfl

/-- A function of the error keeps whether there is one. -/
lemma isOk_mapError {f : ε → ε'} : (result.mapError f).isOk = result.isOk := by
  cases result <;> rfl

/-- A mapped result holds what the function makes of the value. -/
lemma map_eq_ok_iff {f : α → β} {b : β} : result.map f = .ok b ↔ ∃ a, result = .ok a ∧ f a = b := by
  cases result <;> simp [Except.map]

/-- A mapped result holds the same error. -/
lemma map_eq_error_iff {f : α → β} {e : ε} : result.map f = .error e ↔ result = .error e := by
  cases result <;> simp [Except.map]

/-- A run over a list goes on from what its first step gives. -/
lemma foldlM_cons_eq_ok_iff {f : β → α → Except ε β} {b b' : β} {a : α} {l : List α} :
    (a :: l).foldlM f b = .ok b' ↔ ∃ middle, f b a = .ok middle ∧ l.foldlM f middle = .ok b' := by
  rw [List.foldlM_cons]
  cases f b a <;> simp [bind, Except.bind]

/-- A run over a list fails at its first step or later on. -/
lemma foldlM_cons_eq_error_iff {f : β → α → Except ε β} {b : β} {e : ε} {a : α} {l : List α} :
    (a :: l).foldlM f b = .error e ↔
      f b a = .error e ∨ ∃ middle, f b a = .ok middle ∧ l.foldlM f middle = .error e := by
  rw [List.foldlM_cons]
  cases f b a <;> simp [bind, Except.bind]

/-- A run over two lists is the run over the second after the first. -/
lemma foldlM_append_eq_ok_iff {f : β → α → Except ε β} {b b' : β} {l l' : List α} :
    (l ++ l').foldlM f b = .ok b' ↔
      ∃ middle, l.foldlM f b = .ok middle ∧ l'.foldlM f middle = .ok b' := by
  rw [List.foldlM_append]
  cases l.foldlM f b <;> simp [bind, Except.bind]

/-- A run fails at one of the elements of its list. -/
lemma foldlM_eq_error_iff {f : β → α → Except ε β} {b : β} {e : ε} {l : List α} :
    l.foldlM f b = .error e ↔ ∃ before a later middle, l = before ++ a :: later ∧
      before.foldlM f b = .ok middle ∧ f middle a = .error e := by
  constructor
  · intro h
    induction l generalizing b with
    | nil => cases h
    | cons a l ih =>
      rcases foldlM_cons_eq_error_iff.1 h with failed | ⟨middle, next, h⟩
      · exact ⟨[], a, l, b, rfl, rfl, failed⟩
      · obtain ⟨before, a', later, last, rfl, run, failed⟩ := ih h
        exact ⟨a :: before, a', later, last, rfl, foldlM_cons_eq_ok_iff.2 ⟨middle, next, run⟩,
          failed⟩
  · rintro ⟨before, a, later, middle, rfl, run, failed⟩
    rw [List.foldlM_append, run]
    exact foldlM_cons_eq_error_iff.2 (.inl failed)

/-- What every step keeps holds after the run. -/
lemma foldlM_keeps {P : β → Prop} {f : β → α → Except ε β} {b b' : β} {l : List α}
    (step : ∀ a ∈ l, ∀ b b', P b → f b a = .ok b' → P b') (start : P b)
    (h : l.foldlM f b = .ok b') : P b' := by
  induction l generalizing b with
  | nil =>
    cases h
    exact start
  | cons a l ih =>
    obtain ⟨middle, next, later⟩ := foldlM_cons_eq_ok_iff.1 h
    have kept : P middle := step a (.head _) b middle start next
    exact ih (fun a member => step a (.tail _ member)) kept later

end

/-! ### Compounds -/

/-- Whether a character ends a compound. -/
def isStop (c : Char) : Bool := Text.isBlank c || (Separator.ofChar? c).isSome

/-- White space ends a compound. -/
lemma isStop_of_isBlank {c : Char} (h : Text.isBlank c) : isStop c := by
  rw [isStop, h]
  rfl

/-- What ends no compound is neither white space nor a separator. -/
lemma not_isStop_iff {c : Char} :
    ¬ isStop c ↔ Text.isBlank c = false ∧ Separator.ofChar? c = none := by
  simp [isStop]

/-- A text that cannot go on with a compound. -/
def Stops (v : Text) : Prop := ∀ c ∈ v.head?, isStop c

/-- What ends a compound opens no region. -/
lemma ofOpening?_of_isStop {c : Char} (h : isStop c) : Brackets.ofOpening? c = none := by
  unfold Brackets.ofOpening?
  split
  · exact absurd h (by decide)
  · exact absurd h (by decide)
  · rfl

namespace Cursor

/-- A compound is read region by region and character by character, up to a stop. -/
theorem compound_eq (cursor : Cursor) :
    cursor.compound =
      match cursor.rest with
      | [] => (.ok [], cursor)
      | c :: rest =>
        match Brackets.ofOpening? c with
        | some brackets =>
          match cursor.region brackets with
          | (.error e, after) => (.error e, after)
          | (.ok body, after) =>
            (after.compound.1.map (brackets.opening :: body ++ [brackets.closing] ++ ·),
              after.compound.2)
        | none =>
          if Text.isBlank c || (Separator.ofChar? c).isSome then (.ok [], cursor)
          else
            ((cursor.past [c] rest).compound.1.map (c :: ·),
              (cursor.past [c] rest).compound.2) := by
  rw [compound]
  split
  · rename_i h
    rw [h]
  · rename_i c rest h
    rw [h]
    dsimp only
    cases Brackets.ofOpening? c with
    | some brackets =>
      dsimp only
      split
      · rename_i h
        rw [h]
      · rename_i after h
        rw [h]
        dsimp only
        cases after.compound with
        | mk result last => cases result <;> rfl
    | none =>
      dsimp only
      split
      · rfl
      · cases (cursor.past [c] rest).compound with
        | mk result last => cases result <;> rfl

variable {cursor after : Cursor}

/-- How a compound is read: regions in brackets and other characters, up to one that ends it. -/
inductive ReadsCompound : Cursor → Text → Cursor → Prop where
  | nothing {cursor : Cursor} : Stops cursor.rest → ReadsCompound cursor [] cursor
  | region {cursor middle after : Cursor} {c : Char} {rest body text : Text}
      {brackets : Brackets} :
    cursor.rest = c :: rest → Brackets.ofOpening? c = some brackets →
    cursor.region brackets = (.ok body, middle) → ReadsCompound middle text after →
    ReadsCompound cursor (brackets.opening :: body ++ [brackets.closing] ++ text) after
  | char {cursor after : Cursor} {c : Char} {rest text : Text} :
    cursor.rest = c :: rest → Brackets.ofOpening? c = none → ¬ isStop c →
    ReadsCompound (cursor.past [c] rest) text after → ReadsCompound cursor (c :: text) after

/-- A compound is read if its parts are, as the relation says. -/
theorem compound_eq_ok_iff {text : Text} :
    cursor.compound = (.ok text, after) ↔ ReadsCompound cursor text after := by
  constructor
  · intro h
    fun_induction compound cursor generalizing text after with
    | case1 cursor first =>
      cases h
      refine .nothing fun c head => ?_
      rw [first] at head
      cases head
    | case2 => cases h
    | case3 => cases h
    | case4 cursor c rest first brackets opening body middle region text' last later ih =>
      cases h
      exact .region first opening region (ih later)
    | case5 cursor c rest first opening ends =>
      cases h
      refine .nothing ?_
      intro d head
      rw [first] at head
      cases head
      exact ends
    | case6 => cases h
    | case7 cursor c rest first opening goesOn text' last later ih =>
      cases h
      exact .char first opening goesOn (ih later)
  · intro h
    induction h with
    | @nothing cursor stops =>
      rw [compound_eq]
      cases first : cursor.rest with
      | nil => rfl
      | cons c rest =>
        have ends : isStop c := stops c (by rw [first]; rfl)
        dsimp only
        rw [ofOpening?_of_isStop ends]
        exact if_pos ends
    | region first opening region later ih =>
      rw [compound_eq, first]
      dsimp only
      rw [opening]
      dsimp only
      rw [region]
      dsimp only
      rw [ih]
      rfl
    | char first opening goesOn later ih =>
      rw [compound_eq, first]
      dsimp only
      rw [opening]
      dsimp only
      refine (if_neg goesOn).trans ?_
      rw [ih]
      rfl

/-! ### Tokens -/

/-- Tokens are read one after the other, up to the first error. -/
theorem tokens_eq (cursor : Cursor) :
    cursor.tokens =
      match cursor.next with
      | (.error e, after) => (.error e, after)
      | (.ok none, after) => (.ok [], after)
      | (.ok (some token), after) => (after.tokens.1.map (token :: ·), after.tokens.2) := by
  rw [tokens]
  split
  · rename_i h
    rw [h]
  · rename_i h
    rw [h]
  · rename_i token after h
    rw [h]
    dsimp only
    cases after.tokens with
    | mk result last => cases result <;> rfl

/-- What is read first is the next token. -/
lemma exists_next_of_tokens {token : Token} {later : List Token}
    (h : cursor.tokens.1 = .ok (token :: later)) :
    ∃ after, cursor.next = (.ok (some token), after) ∧ after.tokens.1 = .ok later := by
  rw [tokens_eq] at h
  split at h
  · cases h
  · cases h
  · obtain ⟨tokens, read, e⟩ := map_eq_ok_iff.1 h
    cases e
    exact ⟨_, by assumption, read⟩

/-- The next token is what is read first. -/
lemma tokens_of_next {token : Token} (h : cursor.next = (.ok (some token), after)) :
    cursor.tokens.1 = after.tokens.1.map (token :: ·) := by
  rw [tokens_eq, h]

/-- How a token is read after white space, and where the next one starts. -/
inductive ReadsToken (cursor : Cursor) : Token → Cursor → Prop where
  | separator {c : Char} {rest : Text} {separator : Separator} :
    cursor.blanks.2.rest = c :: rest → Separator.ofChar? c = some separator →
    ReadsToken cursor (.separator separator cursor.blanks.2.offset)
      { (cursor.blanks.2.past [c] rest).blanks.2 with afterCompound := false }
  | descendant {c : Char} {rest : Text} :
    cursor.blanks.2.rest = c :: rest → Separator.ofChar? c = none →
    cursor.blanks.1 && cursor.blanks.2.afterCompound →
    ReadsToken cursor (.separator (.combinator .descendant) cursor.offset)
      { cursor.blanks.2 with afterCompound := false }
  | compound {c : Char} {rest text : Text} {last : Cursor} :
    cursor.blanks.2.rest = c :: rest → Separator.ofChar? c = none →
    ¬ (cursor.blanks.1 && cursor.blanks.2.afterCompound) →
    cursor.blanks.2.compound = (.ok text, last) →
    ReadsToken cursor (.compound text cursor.blanks.2.offset) { last with afterCompound := true }

/-- A token is read as the relation says, with the white space in front of it. -/
theorem next_eq_some_iff {token : Token} :
    cursor.next = (.ok (some token), after) ↔ ReadsToken cursor token after := by
  constructor
  · intro h
    unfold next at h
    dsimp only at h
    split at h
    · cases h
    · rename_i c rest first
      split at h
      · rename_i separator mark
        cases h
        exact .separator first mark
      · rename_i plain
        split at h
        · rename_i descends
          cases h
          exact .descendant first plain descends
        · rename_i stays
          split at h
          · cases h
          · rename_i last read
            cases h
            exact .compound first plain stays read
  · intro h
    unfold next
    dsimp only
    cases h with
    | separator first mark =>
      rw [first]
      dsimp only
      rw [mark]
    | descendant first plain descends =>
      rw [first]
      dsimp only
      rw [plain]
      dsimp only
      rw [if_pos descends, first]
    | compound first plain stays read =>
      rw [first]
      dsimp only
      rw [plain]
      dsimp only
      rw [if_neg stays, read]

/-- A token takes a part of the text. -/
lemma ReadsToken.reads {token : Token} (h : ReadsToken cursor token after) :
    ∃ taken, Reads cursor taken after := by
  have front : Reads cursor _ cursor.blanks.2 := takeWhile_reads Text.isBlank cursor
  cases h with
  | @separator c rest _ first =>
    have mark : Reads cursor.blanks.2 [c] (cursor.blanks.2.past [c] rest) := .past first
    have taken := (front.trans mark).trans (takeWhile_reads Text.isBlank _)
    exact ⟨_, taken.rest_eq, taken.offset_eq⟩
  | descendant => exact ⟨_, front.rest_eq, front.offset_eq⟩
  | compound _ _ _ read =>
    have taken := front.trans (compound_reads read)
    exact ⟨_, taken.rest_eq, taken.offset_eq⟩

/-- A compound is read where the first character after white space is no separator. -/
lemma exists_compound_of_next {text : Text} {offset : Nat}
    (h : cursor.next = (.ok (some (.compound text offset)), after)) :
    ∃ c rest last, cursor.blanks.2.rest = c :: rest ∧ Separator.ofChar? c = none ∧
      cursor.blanks.2.compound = (.ok text, last) ∧
      after = { last with afterCompound := true } := by
  cases next_eq_some_iff.1 h with
  | compound first plain _ read => exact ⟨_, _, _, first, plain, read, rfl⟩

/-- The cursor remembers that a compound was read. -/
lemma afterCompound_of_next {text : Text} {offset : Nat}
    (h : cursor.next = (.ok (some (.compound text offset)), after)) :
    after.afterCompound = true := by
  obtain ⟨c, rest, last, -, -, -, rfl⟩ := exists_compound_of_next h
  rfl

/-- No compound that is read is empty. -/
lemma ne_nil_of_next {text : Text} {offset : Nat}
    (h : cursor.next = (.ok (some (.compound text offset)), after)) : text ≠ [] := by
  obtain ⟨c, rest, last, first, plain, read, -⟩ := exists_compound_of_next h
  exact compound_ne_nil read first (blanks_stop first) plain

/-- There is no token where nothing follows white space. -/
lemma next_eq_none_iff :
    (∃ after, cursor.next = (.ok none, after)) ↔ cursor.blanks.2.rest = [] := by
  unfold next
  constructor
  · intro h
    obtain ⟨after, h⟩ := h
    dsimp only at h
    split at h
    · assumption
    · split at h
      · cases h
      · split at h
        · cases h
        · split at h <;> cases h
  · intro h
    simp only [h]
    exact ⟨_, rfl⟩

/-- A text without tokens is blank. -/
lemma tokens_eq_nil_iff : cursor.tokens.1 = .ok [] ↔ cursor.blanks.2.rest = [] := by
  rw [tokens_eq, ← next_eq_none_iff]
  constructor
  · intro h
    split at h
    · cases h
    · exact ⟨_, by assumption⟩
    · obtain ⟨tokens, _, e⟩ := map_eq_ok_iff.1 h
      cases e
  · intro h
    obtain ⟨after, none⟩ := h
    rw [none]

/-- A region is read where its opening character is, up to where the scan closes it. -/
lemma region_eq_ok_iff {brackets : Brackets} {body : Text} :
    cursor.region brackets = (.ok body, after) ↔ ∃ t rest, cursor.rest = brackets.opening :: t ∧
      Region.scan brackets (.start brackets) (cursor.offset + brackets.opening.utf8Size) t =
        .closed body rest ∧
      after = cursor.past (brackets.opening :: body ++ [brackets.closing]) rest := by
  unfold region
  constructor
  · intro h
    split at h
    · cases h
    · rename_i c t first
      split at h
      · rename_i opens
        subst opens
        split at h
        · rename_i rest closed
          cases h
          exact ⟨t, rest, first, closed, rfl⟩
        · cases h
        · cases h
      · cases h
  · intro h
    obtain ⟨t, rest, first, closed, rfl⟩ := h
    rw [first]
    simp only [if_true]
    rw [closed]

end Cursor

namespace Compound

variable {cursor after : Cursor}

/-- A mark is read together with the run of characters behind it. -/
lemma reads_of_takeWhile {c : Char} {rest run : Text} (p : Char → Bool)
    (first : cursor.rest = c :: rest) (read : (cursor.past [c] rest).takeWhile p = (run, after)) :
    Cursor.Reads cursor (c :: run) after := by
  have taken := Cursor.takeWhile_reads p (cursor.past [c] rest)
  rw [read] at taken
  exact (Cursor.Reads.past first).trans taken

/-- The argument of a pseudo-class is shorter than what it stands in, as its brackets are no part of
it. -/
lemma argument_length_lt {rest name argument : Text} {front : Cursor}
    (first : cursor.rest = ':' :: rest) (read : (cursor.past [':'] rest).name = (name, front))
    (region : front.region .round = (.ok argument, after)) :
    argument.length < cursor.rest.length := by
  have named := (reads_of_takeWhile isNameChar first read).length_eq
  have inside := (Cursor.region_reads region).length_eq
  simp only [List.length_append, List.length_cons] at named inside
  omega

end Compound

/-! ### Attribute tests -/

/-- No letter is lost when a text is put in small letters. -/
lemma AttributeTest.lower_isEmpty_iff {t : Text} : (Text.lower t).isEmpty ↔ t = [] := by
  rw [List.isEmpty_iff, Text.lower_eq_nil_iff]

variable [PatternEngine]

namespace AttributeTest

/-- How an attribute test is read: up to an equals sign if there is one, and then behind it. -/
inductive Reads (inner : Text) : Condition → Prop where
  | starting {start : Text} :
    inner.dropWhile (· != '=') = [] → Text.trim inner = '^' :: start → start ≠ [] →
    Reads inner (.attributeStarting (Text.lower start))
  | name :
    inner.dropWhile (· != '=') = [] → Text.trim inner ≠ [] →
    (∀ start, Text.trim inner ≠ '^' :: start) →
    Reads inner (.hasAttribute (Text.lower (Text.trim inner)))
  | value {mark : Char} {after key value : Text} {comparison : Comparison} :
    inner.dropWhile (· != '=') = mark :: after →
    splitOperator (inner.takeWhile (· != '=')) = (key, .compare comparison) →
    Text.trim key ≠ [] → Text.trim (unquote (Text.trim after)) = value → value ≠ [] →
    Reads inner (.attributeValue (Text.lower (Text.trim key)) comparison (Text.lower value))
  | pattern {mark : Char} {after key value : Text} {pattern : PatternEngine.Compiled} :
    inner.dropWhile (· != '=') = mark :: after →
    splitOperator (inner.takeWhile (· != '=')) = (key, .matchPattern) →
    Text.trim key ≠ [] → Text.trim (unquote (Text.trim after)) = value → value ≠ [] →
    PatternEngine.compile value = .ok pattern →
    Reads inner (.attributeMatches (Text.lower (Text.trim key)) pattern)

variable {inner : Text} {condition : Condition}

/-- A name is read by itself, or behind a caret as the start of one. -/
lemma readName_eq_ok_iff :
    readName inner = .ok condition ↔
      (∃ start, Text.trim inner = '^' :: start ∧ start ≠ [] ∧
        condition = .attributeStarting (Text.lower start)) ∨
      (Text.trim inner ≠ [] ∧ (∀ start, Text.trim inner ≠ '^' :: start) ∧
        condition = .hasAttribute (Text.lower (Text.trim inner))) := by
  unfold readName
  generalize Text.trim inner = name
  split
  · simp
  · simp
  · rename_i start long
    simpa [eq_comm] using fun _ e => long e
  · rename_i nonempty _ plain
    have nonempty : name ≠ [] := nonempty
    have plain : ∀ start, name ≠ '^' :: start := plain
    simp [nonempty, plain, eq_comm]

/-- An attribute test is read as the relation says. -/
theorem read_eq_ok_iff {offset : Nat} :
    read inner offset = .ok condition ↔ Reads inner condition := by
  unfold read
  dsimp only
  constructor
  · intro h
    split at h
    · rename_i bare
      split at h <;> cases h
      rename_i named
      rcases readName_eq_ok_iff.1 named with ⟨start, first, long, rfl⟩ | ⟨nonempty, plain, rfl⟩
      · exact .starting bare first long
      · exact .name bare nonempty plain
    · rename_i mark after rest
      cases before : splitOperator (inner.takeWhile (· != '=')) with
      | mk key operator =>
        rw [before] at h
        dsimp only at h
        split at h
        · cases h
        · rename_i named
          have named := mt lower_isEmpty_iff.2 named
          split at h
          · cases h
          · rename_i given
            have given := mt List.isEmpty_iff.2 given
            cases operator with
            | compare comparison =>
              cases h
              exact .value rest before named rfl given
            | matchPattern =>
              dsimp only at h
              split at h <;> cases h
              rename_i compiled
              exact .pattern rest before named rfl given compiled
  · intro h
    cases h with
    | starting bare first long =>
      rw [bare, readName_eq_ok_iff.2 (.inl ⟨_, first, long, rfl⟩)]
    | name bare nonempty plain =>
      rw [bare, readName_eq_ok_iff.2 (.inr ⟨nonempty, plain, rfl⟩)]
    | value rest before named value given =>
      rw [rest, before]
      dsimp only
      rw [value, if_neg (mt lower_isEmpty_iff.1 named), if_neg (mt List.isEmpty_iff.1 given)]
    | pattern rest before named value given compiled =>
      rw [rest, before]
      dsimp only
      rw [value, if_neg (mt lower_isEmpty_iff.1 named), if_neg (mt List.isEmpty_iff.1 given),
        compiled]

end AttributeTest

/-! ### Pseudo-classes -/

section

variable {nested : Nested} {name argument : Text} {offset : Nat} {condition : Condition}

/-- An explanation changes errors only. -/
lemma Parameter.explain_eq_ok_iff {result : Except Reason Condition} :
    read.explain name argument offset result = .ok condition ↔ result = .ok condition := by
  cases result <;> simp [read.explain, Except.mapError]

/-- An argument that is accepted stands in the condition it is read for. -/
lemma Parameter.explain_map_eq_ok_iff {α : Type} {result : Except Reason α} {f : α → Condition} :
    read.explain name argument offset (result.map f) = .ok condition ↔
      ∃ a, result = .ok a ∧ f a = condition :=
  explain_eq_ok_iff.trans map_eq_ok_iff

/-- A pseudo-class that is known stands in the table. -/
lemma PseudoClass.mem_table_of_ofName? {pseudoClass : PseudoClass}
    (h : ofName? name = some pseudoClass) : (Text.lower name, pseudoClass) ∈ table := by
  obtain ⟨before, after, e, -⟩ := List.lookup_eq_some_iff.1 h
  exact e ▸ List.mem_append_right _ (.head _)

/-- A pseudo-class is a condition by itself and takes no argument, or it takes one and compiles to
what its parameter reads. -/
theorem PseudoClass.compile_eq_ok_iff {call : Option (Text × Nat)} :
    compile nested name offset call = .ok condition ↔
      ofName? name = some (.plain condition) ∧ call = none ∨
      ∃ parameter argument start, ofName? name = some (.withArgument parameter) ∧
        call = some (argument, start) ∧
        parameter.read nested name argument start = .ok condition := by
  constructor
  · intro h
    unfold compile at h
    split at h
    · cases h
    · rename_i known
      cases h
      exact .inl ⟨known, rfl⟩
    · cases h
    · cases h
    · rename_i parameter argument start known
      exact .inr ⟨parameter, argument, start, known, rfl, h⟩
  · unfold compile
    rintro (⟨known, rfl⟩ | ⟨parameter, argument, start, known, rfl, read⟩)
    · rw [known]
    · rw [known]
      exact read

end

/-! ### Simple selectors -/

namespace Compound

/-- How a simple selector is read, and where the next one starts. -/
inductive ReadsSimple (nested : Nested) (cursor : Cursor) : Condition → Cursor → Prop where
  | id {rest name : Text} {after : Cursor} :
    cursor.rest = '#' :: rest → (cursor.past ['#'] rest).name = (name, after) → name ≠ [] →
    ReadsSimple nested cursor (.id name) after
  | hasClass {rest name : Text} {after : Cursor} :
    cursor.rest = '.' :: rest → (cursor.past ['.'] rest).name = (name, after) → name ≠ [] →
    ReadsSimple nested cursor (.hasClass name) after
  | universal {rest : Text} {after : Cursor} :
    cursor.rest = '*' :: rest → (cursor.past ['*'] rest).tag = ([], after) →
    ReadsSimple nested cursor (.universal none) after
  | universalTag {rest tag : Text} {after : Cursor} :
    cursor.rest = '*' :: rest → (cursor.past ['*'] rest).tag = (tag, after) → tag ≠ [] →
    ReadsSimple nested cursor (.universal (some (normalizeTag tag))) after
  | attributeTest {rest inner : Text} {condition : Condition} {after : Cursor} :
    cursor.rest = '[' :: rest → cursor.region .square = (.ok inner, after) →
    AttributeTest.read inner cursor.offset = .ok condition →
    ReadsSimple nested cursor condition after
  | plain {rest name : Text} {condition : Condition} {after : Cursor} :
    cursor.rest = ':' :: rest → (cursor.past [':'] rest).name = (name, after) → name ≠ [] →
    after.peek ≠ some '(' → PseudoClass.compile nested name cursor.offset none = .ok condition →
    ReadsSimple nested cursor condition after
  | call {rest name argument : Text} {condition : Condition} {front after : Cursor} :
    cursor.rest = ':' :: rest → (cursor.past [':'] rest).name = (name, front) → name ≠ [] →
    front.region .round = (.ok argument, after) →
    PseudoClass.compile nested name cursor.offset (some (argument, front.offset + 1)) =
      .ok condition →
    ReadsSimple nested cursor condition after
  | tag {c : Char} {rest tag : Text} {after : Cursor} :
    cursor.rest = c :: rest → isTagChar c → cursor.tag = (tag, after) →
    ReadsSimple nested cursor (.tag (normalizeTag tag)) after

variable {nested : Nested} {cursor after : Cursor} {condition : Condition}

/-- Behind a colon the name of a pseudo-class is read, and its argument where a bracket follows. -/
lemma readsSimple_of_pseudoClass {rest : Text} (first : cursor.rest = ':' :: rest)
    (h : pseudoClass nested cursor.offset (cursor.past [':'] rest) = .ok (condition, after)) :
    ReadsSimple nested cursor condition after := by
  unfold pseudoClass at h
  dsimp only at h
  split at h
  · cases h
  · rename_i named
    have named := mt List.isEmpty_iff.2 named
    split at h
    · split at h
      · cases h
      · rename_i region
        split at h <;> cases h
        rename_i compiled
        exact .call first rfl named region compiled
    · rename_i bare
      split at h <;> cases h
      rename_i compiled
      exact .plain first rfl named bare compiled

/-- A simple selector is read in the way that its first character says. -/
theorem simple_eq_ok_iff {c : Char} {rest : Text} (first : cursor.rest = c :: rest) :
    simple nested cursor c rest = .ok (condition, after) ↔
      ReadsSimple nested cursor condition after := by
  constructor
  · intro h
    unfold simple at h
    dsimp only at h
    split at h
    · split at h <;> cases h
      rename_i named
      exact .id first rfl (mt List.isEmpty_iff.2 named)
    · split at h <;> cases h
      rename_i named
      exact .hasClass first rfl (mt List.isEmpty_iff.2 named)
    · split at h <;> cases h
      · rename_i any
        exact .universal first (congrArg (·, _) (List.isEmpty_iff.1 any))
      · rename_i named
        exact .universalTag first rfl (mt List.isEmpty_iff.2 named)
    · split at h
      · cases h
      · rename_i region
        split at h <;> cases h
        rename_i read
        exact .attributeTest first region read
    · exact readsSimple_of_pseudoClass first h
    · split at h <;> cases h
      rename_i tag
      exact .tag first tag rfl
  · intro h
    have split {d : Char} {rest' : Text} (first' : cursor.rest = d :: rest') :
        c = d ∧ rest = rest' := List.cons.inj (first.symm.trans first')
    cases h with
    | id first' name named =>
      obtain ⟨rfl, rfl⟩ := split first'
      simp [simple, name, named]
    | hasClass first' name named =>
      obtain ⟨rfl, rfl⟩ := split first'
      simp [simple, name, named]
    | universal first' tag =>
      obtain ⟨rfl, rfl⟩ := split first'
      simp [simple, tag]
    | universalTag first' tag named =>
      obtain ⟨rfl, rfl⟩ := split first'
      simp [simple, tag, named]
    | attributeTest first' region read =>
      obtain ⟨rfl, rfl⟩ := split first'
      simp [simple, region, read]
    | plain first' name named bare compiled =>
      obtain ⟨rfl, rfl⟩ := split first'
      simp [simple, pseudoClass, name, named, bare, compiled]
    | @call _ _ _ _ front _ first' name named region compiled =>
      obtain ⟨rfl, rfl⟩ := split first'
      obtain ⟨t, _, opens, -⟩ := Cursor.region_eq_ok_iff.1 region
      have opens : front.peek = some '(' := congrArg List.head? opens
      simp [simple, pseudoClass, name, named, opens, region, compiled]
    | tag first' tag taken =>
      obtain ⟨rfl, rfl⟩ := split first'
      -- The marks of the other simple selectors are no letters of tags.
      unfold simple
      dsimp only
      split <;> first | exact absurd tag (by decide) | skip
      rw [taken]
      exact if_pos tag

/-- A simple selector takes a part of the text. -/
lemma ReadsSimple.reads (h : ReadsSimple nested cursor condition after) :
    ∃ taken, Cursor.Reads cursor taken after := by
  cases h with
  | id first read | hasClass first read | plain first read =>
    exact ⟨_, reads_of_takeWhile isNameChar first read⟩
  | universal first read | universalTag first read =>
    exact ⟨_, reads_of_takeWhile isTagChar first read⟩
  | attributeTest _ region => exact ⟨_, Cursor.region_reads region⟩
  | call first read _ region =>
    exact ⟨_, (reads_of_takeWhile isNameChar first read).trans (Cursor.region_reads region)⟩
  | tag _ _ read =>
    have taken := Cursor.takeWhile_reads isTagChar cursor
    rw [show cursor.takeWhile isTagChar = _ from read] at taken
    exact ⟨_, taken⟩

/-- Simple selectors are read one after the other, up to the first error. -/
theorem simples_eq (nested : Nested) (cursor : Cursor) :
    simples nested cursor =
      match cursor.rest with
      | [] => .ok []
      | c :: rest =>
        match simple nested cursor c rest with
        | .error e => .error e
        | .ok (condition, after) => (simples nested after).map (condition :: ·) := by
  rw [simples]
  split
  · rename_i h
    rw [h]
  · rename_i h
    rw [h]
    dsimp only
    split
    · rename_i h
      rw [h]
    · rename_i condition after h
      rw [h]
      dsimp only
      cases simples nested after <;> rfl

/-- There are no simple selectors only where the text ends. -/
lemma simples_eq_nil_iff : simples nested cursor = .ok [] ↔ cursor.rest = [] := by
  rw [simples_eq]
  constructor
  · intro h
    split at h
    · assumption
    · split at h
      · cases h
      · obtain ⟨_, _, ⟨⟩⟩ := map_eq_ok_iff.1 h
  · intro ended
    rw [ended]

/-- The first of several conditions is that of the simple selector at the cursor. -/
lemma exists_readsSimple_of_simples {conditions : List Condition}
    (h : simples nested cursor = .ok (condition :: conditions)) :
    ∃ after, ReadsSimple nested cursor condition after ∧ simples nested after = .ok conditions := by
  rw [simples_eq] at h
  split at h
  · cases h
  · rename_i first
    split at h
    · cases h
    · rename_i after read
      obtain ⟨_, later, e⟩ := map_eq_ok_iff.1 h
      cases e
      exact ⟨after, (simple_eq_ok_iff first).1 read, later⟩

/-- A simple selector at the cursor gives the first of the conditions. -/
lemma simples_of_readsSimple (h : ReadsSimple nested cursor condition after) :
    simples nested cursor = (simples nested after).map (condition :: ·) := by
  obtain ⟨c, rest, first⟩ : ∃ c rest, cursor.rest = c :: rest := by
    cases h <;> exact ⟨_, _, by assumption⟩
  rw [simples_eq, first]
  dsimp only
  rw [(simple_eq_ok_iff first).2 h]

end Compound

namespace Chain

variable {nested : Nested} {text : Text} {offset : Nat}

/-- The first compound of an alternative completes it. -/
lemma compound_start :
    start.compound nested text offset = (Compound.read nested text offset).map .complete := by
  unfold compound
  cases Compound.read nested text offset <;> rfl

/-- A compound behind a combinator is combined with what stands before it. -/
lemma compound_awaiting {left : Condition} {next : Combinator} {o : Nat} :
    (awaiting left next o).compound nested text offset =
      (Compound.read nested text offset).map fun right => .complete (left.combine next right) := by
  unfold compound
  cases Compound.read nested text offset <;> rfl

end Chain

/-- A compound starts an alternative, or it stands to the right of a combinator. -/
lemma Chain.compound_eq_ok_iff {nested : Nested} {text : Text} {offset : Nat}
    {chain chain' : Chain} : chain.compound nested text offset = .ok chain' ↔
      ∃ condition, Compound.read nested text offset = .ok condition ∧
        (chain = .start ∧ chain' = .complete condition ∨
          ∃ left next o, chain = .awaiting left next o ∧
            chain' = .complete (left.combine next condition)) := by
  unfold compound
  cases Compound.read nested text offset with
  | error e => simp
  | ok condition => cases chain <;> simp [eq_comm]

/-- A combinator relates to what is complete before it, or to the root of the search. -/
lemma Chain.combinator_eq_ok_iff {query : Query} {chain chain' : Chain} {next : Combinator}
    {offset : Nat} : chain.combinator query next offset = .ok chain' ↔
      ∃ left, (chain = .start ∧ left = .scope ∨ chain = .complete left) ∧
        chain' = .awaiting left next offset := by
  cases chain <;> simp [combinator, eq_comm]

/-- An alternative may end only where it is complete. -/
lemma Chain.finish_eq_ok_iff {chain : Chain} {anchor : Nat} {condition : Condition} :
    chain.finish anchor = .ok condition ↔ chain = .complete condition := by
  cases chain <;> simp [finish]

namespace Progress

variable {nested : Nested} {query : Query} {progress progress' : Progress} {condition : Condition}

/-- A comma finishes an alternative, which must be complete. -/
lemma step_comma_eq_ok_iff {offset : Nat} :
    progress.step nested query (.separator .comma offset) = .ok progress' ↔
      ∃ last, progress.chain = .complete last ∧
        progress' = ⟨progress.finished ++ [last], .start, some offset⟩ := by
  unfold step
  rw [map_eq_ok_iff]
  simp only [Chain.finish_eq_ok_iff, @eq_comm _ progress']

/-- A selector comes out as its alternatives, of which the last one is complete. -/
lemma finish_eq_ok_iff {base : Nat} :
    progress.finish base = .ok condition ↔ ∃ last, progress.chain = .complete last ∧
      condition = .anyOf (progress.finished ++ [last]) := by
  obtain ⟨finished, chain, comma⟩ := progress
  cases chain with
  | start => cases comma <;> simp [finish]
  | complete last => simp [finish, Chain.finish, Except.map, eq_comm]
  | awaiting left k o => simp [finish, Chain.finish, Except.map]

end Progress

/-- A selector is compiled in three passes: into tokens, into the progress after the last of them,
and into a condition. -/
theorem Query.compile_eq_ok_iff {nested : Nested} {query : Query} {condition : Condition} :
    query.compile nested = .ok condition ↔
      ∃ tokens progress, (Cursor.start query.base query.text).tokens.1 = .ok tokens ∧
        tokens.foldlM (Progress.step nested query) Progress.start = .ok progress ∧
        progress.finish query.base = .ok condition := by
  unfold compile
  constructor
  · intro h
    split at h
    · cases h
    · rename_i tokens read
      split at h
      · cases h
      · rename_i progress folded
        exact ⟨tokens, progress, read, folded, h⟩
  · intro h
    obtain ⟨tokens, progress, read, folded, finished⟩ := h
    rw [read]
    dsimp only
    rw [folded]
    exact finished

/-- A selector is refused in the first of the three passes that fails. -/
theorem Query.compile_eq_error_iff {nested : Nested} {query : Query} {e : Error} :
    query.compile nested = .error e ↔
      (Cursor.start query.base query.text).tokens.1 = .error e ∨
      ∃ tokens, (Cursor.start query.base query.text).tokens.1 = .ok tokens ∧
        (tokens.foldlM (Progress.step nested query) Progress.start = .error e ∨
          ∃ progress, tokens.foldlM (Progress.step nested query) Progress.start = .ok progress ∧
            progress.finish query.base = .error e) := by
  unfold compile
  constructor
  · intro h
    split at h
    · rename_i failed
      cases h
      exact .inl failed
    · rename_i tokens read
      split at h
      · rename_i failed
        cases h
        exact .inr ⟨tokens, read, .inl failed⟩
      · rename_i progress folded
        exact .inr ⟨tokens, read, .inr ⟨progress, folded, h⟩⟩
  · rintro (failed | ⟨tokens, read, failed | ⟨progress, folded, failed⟩⟩)
    · rw [failed]
    · rw [read]
      dsimp only
      rw [failed]
    · rw [read]
      dsimp only
      rw [folded]
      exact failed

end TreeQuery.Selector
