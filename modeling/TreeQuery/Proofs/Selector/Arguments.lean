import Mathlib.Data.List.TakeWhile
import TreeQuery.Proofs.Selector.Grammar
import TreeQuery.Proofs.Selector.Reading
import TreeQuery.Proofs.Text.LetterCase

/-!
# Arguments

The readers of attribute tests and of the arguments of pseudo-classes accept what the grammar allows
and nothing else.  Main statements: `attributeTest_isOk_iff`, `compile_plain_isOk_iff` and
`compile_call_isOk_iff`.
-/

namespace TreeQuery.Selector
open TreeQuery.Selector.Grammar

/-! ### Runs -/

namespace Grammar.Run

variable {p : Char → Bool} {run rest : Text}

/-- A run is what is taken from a text that starts with it. -/
lemma takeWhile_eq (h : Run p run rest) : (run ++ rest).takeWhile p = run := by
  rw [List.takeWhile_append_of_pos h.all]
  cases rest with
  | nil => exact List.append_nil _
  | cons c rest =>
    rw [List.takeWhile_cons_of_neg (by simp [h.stop c rfl]), List.append_nil]

/-- What does not belong to a run is left of the text. -/
lemma dropWhile_eq (h : Run p run rest) : (run ++ rest).dropWhile p = rest := by
  rw [List.dropWhile_append_of_pos h.all]
  cases rest with
  | nil => rfl
  | cons c rest => exact List.dropWhile_cons_of_neg (by simp [h.stop c rfl])

/-- What is taken from a text is a run in front of what is left. -/
lemma of_takeWhile (p : Char → Bool) (t : Text) : Run p (t.takeWhile p) (t.dropWhile p) where
  all _ member := List.mem_takeWhile_imp member
  stop c first := by
    have stop := List.head?_dropWhile_not p t
    rw [first] at stop
    simpa using stop

end Grammar.Run

/-! ### Attribute tests -/

namespace AttributeTest

/-- Quotes around a text are dropped. -/
lemma unquote_quoted {q : Char} (t : Text) (quote : isQuote q) : unquote (q :: t ++ [q]) = t := by
  simp [unquote, quote]

/-- A text that does not stand inside quotes stays as it is. -/
lemma unquote_bare {t : Text} (bare : ∀ q s, isQuote q → t ≠ q :: s ++ [q]) : unquote t = t := by
  cases t with
  | nil => rfl
  | cons q rest =>
    unfold unquote
    refine if_neg fun both => ?_
    have both := Bool.and_eq_true_iff.1 both
    obtain ⟨s, e⟩ := List.getLast?_eq_some_iff.1 (eq_of_beq both.2)
    exact bare q s both.1 (by rw [e]; rfl)

/-- Taking away quotes takes away one pair if there is one. -/
lemma unquoted_iff {t u : Text} : Unquoted t u ↔ unquote t = u := by
  constructor
  · intro h
    cases h with
    | quoted quote => exact unquote_quoted u quote
    | bare bare => exact unquote_bare bare
  · rintro rfl
    by_cases quoted : ∃ q s, isQuote q ∧ t = q :: s ++ [q]
    · obtain ⟨q, s, quote, rfl⟩ := quoted
      rw [unquote_quoted s quote]
      exact .quoted quote
    · have bare : ∀ q s, isQuote q → t ≠ q :: s ++ [q] := fun q s quote e =>
        quoted ⟨q, s, quote, e⟩
      rw [unquote_bare bare]
      exact .bare bare

/-- A value is what is left within blanks and quotes, and it is not empty. -/
lemma value_iff {written value : Text} :
    Value written value ↔
      value = Text.trim (unquote (Text.trim written)) ∧ value ≠ [] := by
  constructor
  · intro h
    obtain ⟨⟨t, unquoted, rfl⟩, nonempty⟩ := h
    rw [unquoted_iff.1 unquoted]
    exact ⟨rfl, nonempty⟩
  · intro h
    obtain ⟨e, nonempty⟩ := h
    exact ⟨⟨_, unquoted_iff.2 rfl, e⟩, nonempty⟩

/-- A mark stands for an operator, and the tilde alone for the match of a pattern. -/
lemma ofMark?_of_mem {mark : Char} (member : mark ∈ marks) :
    ∃ operator, Operator.ofMark? mark = some operator ∧
      (operator = .matchPattern ↔ mark = '~') := by
  have all : ∀ mark ∈ ['!', '^', '$', '*', '~'], ∃ operator,
      Operator.ofMark? mark = some operator ∧ (operator = .matchPattern ↔ mark = '~') := by
    simp only [List.forall_mem_cons]
    exact ⟨⟨_, rfl, by decide⟩, ⟨_, rfl, by decide⟩, ⟨_, rfl, by decide⟩, ⟨_, rfl, by decide⟩,
      ⟨_, rfl, by decide⟩, nofun⟩
  exact all mark member

/-- Other characters than the marks stand for no operator. -/
lemma ofMark?_eq_none {c : Char} (h : c ∉ marks) : Operator.ofMark? c = none := by
  unfold Operator.ofMark?
  split <;> first | rfl | exact absurd (by decide) h

/-- An operator in front of the equals sign is split from the key. -/
lemma splitOperator_operator {key : Text} {mark : Char} {operator : Operator}
    (known : Operator.ofMark? mark = some operator) :
    splitOperator (key ++ [mark]) = (key, operator) := by
  unfold splitOperator
  rw [List.getLast?_concat, Option.bind_some, known, List.dropLast_concat]

/-- A key that ends with no mark is compared for being equal. -/
lemma splitOperator_equals {key : Text} (plain : ∀ c ∈ key.getLast?, c ∉ marks) :
    splitOperator key = (key, .compare .equals) := by
  unfold splitOperator
  cases last : key.getLast? with
  | none => rfl
  | some c => rw [Option.bind_some, ofMark?_eq_none (plain c last)]

variable [PatternEngine]

/-- A name is readable unless it is empty or a caret alone. -/
lemma readName_isOk_iff {inner : Text} :
    (readName inner).isOk ↔ Text.trim inner ≠ [] ∧ Text.trim inner ≠ ['^'] := by
  unfold readName
  generalize Text.trim inner = t
  split
  · exact iff_of_false nofun fun h => h.1 rfl
  · exact iff_of_false nofun fun h => h.2 rfl
  · rename_i start long
    exact iff_of_true rfl ⟨nofun, fun e => long (List.cons.inj e).2⟩
  · rename_i nonempty other _
    exact iff_of_true rfl ⟨nonempty, other⟩

/-- Without an equals sign an attribute test is a name. -/
lemma read_isOk_of_not_mem {inner : Text} {offset : Nat} (none : '=' ∉ inner) :
    (read inner offset).isOk ↔ Text.trim inner ≠ [] ∧ Text.trim inner ≠ ['^'] := by
  have dropped : inner.dropWhile (· != '=') = [] := by
    rw [List.dropWhile_eq_nil_iff]
    intro c member
    exact bne_iff_ne.2 fun e => none (e ▸ member)
  rw [← readName_isOk_iff]
  unfold read
  rw [dropped]
  dsimp only
  cases readName inner <;> rfl

/-- With an equals sign an attribute test has a key and a value, and the value of a match is a
pattern. -/
lemma read_isOk_of_split {before after : Text} {offset : Nat} (first : '=' ∉ before) :
    (read (before ++ '=' :: after) offset).isOk ↔
      Text.trim (splitOperator before).1 ≠ [] ∧ Text.trim (unquote (Text.trim after)) ≠ [] ∧
        ((splitOperator before).2 = .matchPattern →
          (PatternEngine.compile (Text.trim (unquote (Text.trim after)))).isOk) := by
  have run : Run (· != '=') before ('=' :: after) :=
    ⟨fun c member => bne_iff_ne.2 fun e => first (e ▸ member), fun c e => by cases e; rfl⟩
  unfold read
  rw [run.dropWhile_eq, run.takeWhile_eq]
  obtain ⟨key, operator⟩ := splitOperator before
  dsimp only
  generalize Text.trim (unquote (Text.trim after)) = value
  split
  · rename_i nameless
    have nameless := Text.lower_eq_nil_iff.1 (List.isEmpty_iff.1 nameless)
    exact iff_of_false nofun fun h => h.1 nameless
  · rename_i named
    have named : Text.trim key ≠ [] := fun e => named (by rw [e]; rfl)
    split
    · rename_i missing
      exact iff_of_false nofun fun h => h.2.1 (List.isEmpty_iff.1 missing)
    · rename_i given
      have given : value ≠ [] := fun e => given (by rw [e]; rfl)
      cases operator with
      | compare comparison => exact iff_of_true rfl ⟨named, given, nofun⟩
      | matchPattern =>
        dsimp only
        cases PatternEngine.compile value with
        | error message => exact iff_of_false nofun fun h => nomatch h.2.2 rfl
        | ok pattern => exact iff_of_true rfl ⟨named, given, fun _ => rfl⟩

/-- The reader of attribute tests accepts what the grammar allows. -/
theorem attribute_isOk_iff {inner : Text} {offset : Nat} :
    (read inner offset).isOk ↔ Attribute inner := by
  constructor
  · intro ok
    by_cases split : '=' ∈ inner
    · obtain ⟨before, after, rfl, first⟩ := List.eq_append_cons_of_mem split
      rw [read_isOk_of_split first] at ok
      by_cases marked : ∃ key mark, before = key ++ [mark] ∧ mark ∈ marks
      · obtain ⟨key, mark, rfl, member⟩ := marked
        obtain ⟨operator, known, pattern⟩ := ofMark?_of_mem member
        rw [splitOperator_operator known] at ok
        obtain ⟨named, given, compiles⟩ := ok
        have first := fun e => first (List.mem_append_left _ e)
        rw [← List.append_cons]
        exact .operator first member named (value_iff.2 ⟨rfl, given⟩) fun e =>
          compiles (pattern.2 e)
      · have plain : ∀ c ∈ before.getLast?, c ∉ marks := by
          intro c last member
          obtain ⟨key, e⟩ := List.getLast?_eq_some_iff.1 last
          exact marked ⟨key, c, e, member⟩
        rw [splitOperator_equals plain] at ok
        exact .equals first plain ok.1 (value_iff.2 ⟨rfl, ok.2.1⟩)
    · obtain ⟨named, more⟩ := (read_isOk_of_not_mem split).1 ok
      exact .name split named more
  · intro h
    cases h with
    | name none named more => exact (read_isOk_of_not_mem none).2 ⟨named, more⟩
    | equals first plain named value =>
      obtain ⟨e, given⟩ := value_iff.1 value
      rw [read_isOk_of_split first, splitOperator_equals plain]
      exact ⟨named, e ▸ given, nofun⟩
    | @operator key written value mark first member named valued compiles =>
      obtain ⟨operator, known, pattern⟩ := ofMark?_of_mem member
      obtain ⟨e, given⟩ := value_iff.1 valued
      have first' : '=' ∉ key ++ [mark] := by
        intro e
        rcases List.mem_append.1 e with e | e
        · exact first e
        · rw [← List.mem_singleton.1 e] at member
          exact absurd member (by decide)
      rw [List.append_cons, read_isOk_of_split first', splitOperator_operator known]
      exact ⟨named, e ▸ given, fun matching => e ▸ compiles (pattern.1 matching)⟩

end AttributeTest

/-! ### Integers -/

/-- Digits within a limit are read as a number within it. -/
lemma digits_iff {limit : Nat} {t : Text} :
    Digits limit t ↔ ∃ n, Text.toNat? t = some n ∧ n ≤ limit := by
  unfold Text.toNat?
  constructor
  · intro h
    obtain ⟨nonempty, digit, bounded⟩ := h
    refine ⟨_, if_pos ?_, bounded⟩
    rw [Bool.and_eq_true, Bool.not_eq_true', List.isEmpty_eq_false_iff, List.all_eq_true]
    exact ⟨nonempty, digit⟩
  · intro h
    obtain ⟨n, read, bounded⟩ := h
    split at read
    · rename_i run
      cases read
      rw [Bool.and_eq_true, Bool.not_eq_true', List.isEmpty_eq_false_iff, List.all_eq_true] at run
      exact ⟨run.1, run.2, bounded⟩
    · cases read

/-- A number without a sign starts with neither of the signs. -/
lemma toInt?_of_digits {limit : Nat} {t : Text} (digits : Digits limit t) :
    Text.toInt? t = (Text.toNat? t).map Int.ofNat := by
  unfold Text.toInt?
  split
  · exact absurd (digits.digit _ (.head _)) (by decide)
  · exact absurd (digits.digit _ (.head _)) (by decide)
  · rfl

/-- An integer of the grammar is one of 32 bits with a sign. -/
lemma integer_iff {t : Text} :
    Integer t ↔ ∃ i, Text.toInt? t = some i ∧ -2147483648 ≤ i ∧ i ≤ 2147483647 := by
  constructor
  · intro h
    cases h with
    | unsigned digits =>
      obtain ⟨n, read, bounded⟩ := digits_iff.1 digits
      refine ⟨n, ?_, by omega, by omega⟩
      rw [toInt?_of_digits digits, read]
      rfl
    | plus digits =>
      obtain ⟨n, read, bounded⟩ := digits_iff.1 digits
      refine ⟨n, ?_, by omega, by omega⟩
      rw [Text.toInt?, read]
      rfl
    | minus digits =>
      obtain ⟨n, read, bounded⟩ := digits_iff.1 digits
      refine ⟨-n, ?_, by omega, by omega⟩
      rw [Text.toInt?, read]
      rfl
  · intro h
    obtain ⟨i, read, low, high⟩ := h
    unfold Text.toInt? at read
    split at read
    all_goals
      obtain ⟨n, magnitude, rfl⟩ := Option.map_eq_some_iff.1 read
    · exact .plus (digits_iff.2 ⟨n, magnitude, Int.ofNat_le.1 high⟩)
    · exact .minus (digits_iff.2 ⟨n, magnitude, Int.ofNat_le.1 (Int.neg_le_neg_iff.1 low)⟩)
    · exact .unsigned (digits_iff.2 ⟨n, magnitude, Int.ofNat_le.1 high⟩)

/-- The index of a pseudo-class is an integer within blanks. -/
lemma integer?_isSome_iff {argument : Text} :
    (Parameter.integer? argument).isSome ↔ Integer (Text.trim argument) := by
  rw [integer_iff]
  unfold Parameter.integer?
  cases Text.toInt? (Text.trim argument) with
  | none => exact iff_of_false nofun nofun
  | some i =>
    rw [Option.bind_some]
    split
    · rename_i fits
      exact iff_of_true rfl ⟨i, rfl, fits⟩
    · rename_i unfit
      exact iff_of_false nofun fun ⟨_, e, fits⟩ => unfit (Option.some.inj e ▸ fits)

/-! ### Pseudo-classes -/

namespace Parameter

variable {argument : Text}

/-- A value that is missing is refused, and any other one is read. -/
lemma orElse_isOk {α : Type} {value : Option α} {reason : Reason} :
    (read.orElse value reason).isOk = value.isSome := by
  cases value <;> rfl

/-- The text of a search is not empty once its backslashes are resolved. -/
lemma searchText_isOk_iff : (searchText argument).isOk ↔ Text.unescape argument ≠ [] := by
  unfold searchText
  cases Text.unescape argument with
  | nil => exact iff_of_false nofun fun h => h rfl
  | cons c text => exact iff_of_true rfl nofun

end Parameter

variable [PatternEngine]

/-- What an argument that starts at `offset` has to be. -/
def Grammar.Kind.Takes (nested : Nested) (argument : Text) (offset : Nat) : Kind → Prop
  | plain => False
  | index => Integer (Text.trim argument)
  | nth => (Nth.read? argument).isSome
  | search => Text.unescape argument ≠ []
  | pattern => argument ≠ [] ∧ (PatternEngine.compile argument).isOk
  | selector => (nested argument offset).isOk

namespace Parameter

/-- What the parameter is for the grammar. -/
def kind : Parameter → Kind
  | index _ => .index
  | nth _ => .nth
  | contains _ | containsData => .search
  | matchesPattern _ => .pattern
  | has | not => .selector

variable {argument : Text}

/-- A pattern is not empty, and it compiles. -/
lemma pattern_isOk_iff :
    (pattern argument).isOk ↔ argument ≠ [] ∧ (PatternEngine.compile argument).isOk := by
  unfold pattern
  cases argument with
  | nil => exact iff_of_false nofun fun h => h.1 rfl
  | cons c argument =>
    rw [if_neg (by simp), isOk_mapError]
    exact iff_and_self.2 fun _ => nofun

/-- A parameter reads exactly the arguments that its kind takes. -/
lemma read_isOk_iff {nested : Nested} {name : Text} {offset : Nat} (parameter : Parameter) :
    (parameter.read nested name argument offset).isOk ↔
      parameter.kind.Takes nested argument offset := by
  cases parameter with
  | index order =>
    rw [read, read.explain, isOk_mapError, isOk_map, orElse_isOk]
    exact integer?_isSome_iff
  | nth counting =>
    rw [read, read.explain, isOk_mapError, isOk_map, orElse_isOk]
    rfl
  | contains part =>
    rw [read, read.explain, isOk_mapError, isOk_map]
    exact searchText_isOk_iff
  | containsData =>
    rw [read, read.explain, isOk_mapError, isOk_map]
    exact searchText_isOk_iff
  | matchesPattern part =>
    rw [read, read.explain, isOk_mapError, isOk_map]
    exact pattern_isOk_iff
  | has =>
    rw [read, isOk_map]
    rfl
  | not =>
    rw [read, isOk_map]
    rfl

end Parameter

namespace PseudoClass

/-- What the pseudo-class takes. -/
def kind : PseudoClass → Kind
  | plain _ => .plain
  | withArgument parameter => parameter.kind

/-- A pseudo-class stands under a name of its kind. -/
lemma mem_names {name : Text} {pseudoClass : PseudoClass}
    (h : ofName? name = some pseudoClass) : Text.lower name ∈ pseudoClass.kind.names := by
  have all : table.all fun (known, pseudoClass) => pseudoClass.kind.names.contains known := rfl
  exact List.contains_iff_mem.1 (List.all_eq_true.1 all _ (mem_table_of_ofName? h))

/-- Under each name stands a pseudo-class of its kind. -/
lemma exists_of_mem_names {name : Text} {kind : Kind} (member : Text.lower name ∈ kind.names) :
    ∃ pseudoClass, ofName? name = some pseudoClass ∧ pseudoClass.kind = kind := by
  have all : kind.names.all fun known =>
      (table.lookup known).any fun pseudoClass => pseudoClass.kind == kind := by
    cases kind <;> rfl
  have found := List.all_eq_true.1 all _ member
  cases known : ofName? name with
  | none => rw [show table.lookup _ = none from known] at found; cases found
  | some pseudoClass =>
    rw [show table.lookup _ = some pseudoClass from known] at found
    exact ⟨pseudoClass, rfl, eq_of_beq found⟩

variable {nested : Nested} {name argument : Text} {offset start : Nat}

/-- A name that stands alone is accepted if it is that of a pseudo-class without an argument. -/
theorem compile_plain_isOk_iff :
    (compile nested name offset none).isOk ↔ Text.lower name ∈ Kind.plain.names := by
  rw [isOk_iff]
  constructor
  · intro h
    obtain ⟨condition, h⟩ := h
    rcases compile_eq_ok_iff.1 h with ⟨known, -⟩ | ⟨_, _, _, -, call, -⟩
    · exact mem_names known
    · cases call
  · intro member
    obtain ⟨pseudoClass, known, same⟩ := exists_of_mem_names member
    cases pseudoClass with
    | plain condition => exact ⟨condition, compile_eq_ok_iff.2 (.inl ⟨known, rfl⟩)⟩
    | withArgument parameter => cases parameter <;> cases same

/-- A call compiles if some kind of that name takes its argument. -/
lemma compile_call_isOk_iff_takes :
    (compile nested name offset (some (argument, start))).isOk ↔
      ∃ kind : Kind, Text.lower name ∈ kind.names ∧ kind.Takes nested argument start := by
  rw [isOk_iff]
  constructor
  · intro h
    obtain ⟨condition, h⟩ := h
    rcases compile_eq_ok_iff.1 h with ⟨-, bare⟩ | ⟨parameter, _, _, known, call, read⟩
    · cases bare
    · cases call
      have takes := (Parameter.read_isOk_iff parameter).1 (isOk_iff.2 ⟨condition, read⟩)
      exact ⟨_, mem_names known, takes⟩
  · intro h
    obtain ⟨kind, member, takes⟩ := h
    obtain ⟨pseudoClass, known, rfl⟩ := exists_of_mem_names member
    cases pseudoClass with
    | plain condition => exact absurd takes id
    | withArgument parameter =>
      obtain ⟨condition, read⟩ := isOk_iff.1 ((Parameter.read_isOk_iff parameter).2 takes)
      exact ⟨condition, compile_eq_ok_iff.2 (.inr ⟨parameter, _, _, known, rfl, read⟩)⟩

/-- A name with an argument is accepted if it is that of a pseudo-class that takes this one. -/
theorem compile_call_isOk_iff :
    (compile nested name offset (some (argument, start))).isOk ↔
      Argument (Text.lower name) argument ∨
        Text.lower name ∈ Kind.selector.names ∧ (nested argument start).isOk := by
  rw [compile_call_isOk_iff_takes]
  constructor
  · intro h
    obtain ⟨kind, member, takes⟩ := h
    cases kind with
    | plain => exact absurd takes id
    | index => exact .inl (.index member takes)
    | nth => exact .inl (.nth member takes)
    | search => exact .inl (.search member takes)
    | pattern => exact .inl (.pattern member takes.1 takes.2)
    | selector => exact .inr ⟨member, takes⟩
  · intro h
    rcases h with h | ⟨member, ok⟩
    · cases h with
      | index member integer => exact ⟨.index, member, integer⟩
      | nth member formula => exact ⟨.nth, member, formula⟩
      | search member nonempty => exact ⟨.search, member, nonempty⟩
      | pattern member nonempty compiles => exact ⟨.pattern, member, nonempty, compiles⟩
    · exact ⟨.selector, member, ok⟩

end PseudoClass
end TreeQuery.Selector
