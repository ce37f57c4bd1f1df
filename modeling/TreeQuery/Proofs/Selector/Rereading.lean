import Mathlib.Logic.Relation
import TreeQuery.Pattern.Basic
import TreeQuery.Proofs.Selector.Nesting
import TreeQuery.Proofs.Selector.Places

/-!
# Reading compounds twice

A compound is read twice, first to find its end and then for its simple selectors.  The first reader
takes every opening bracket for the start of a region, the second one only a bracket that stands
where a region may.  Still it opens no region that the first reader has not found closed, as it
never leaves off in the middle of one: whatever it has read, the rest is made as compounds are.  So
a quote or a bracket that is not closed is found when a selector is split into tokens, or not at
all.  Main statement: `unclosed_found_by_tokens`.
-/

namespace TreeQuery.Selector
open Relation (ReflTransGen TransGen)
open Text (StandsAt)

variable {cursor front after : Cursor} {brackets : Brackets} {e : Error}
  {t : Text}

/-! ### What is left of a compound -/

namespace CompoundText

/-- Behind a character that opens no region the text of a compound goes on. -/
lemma tail {c : Char} (h : CompoundText (c :: t)) (plain : c ∉ "([".toList) : CompoundText t := by
  generalize split : c :: t = s at h
  cases h with
  | nil => cases split
  | region known =>
    obtain ⟨rfl, -⟩ := List.cons.inj split
    exact absurd (by rcases known with rfl | rfl <;> decide) plain
  | char _ _ later =>
    cases split
    exact later

/-- A run of characters that open no region leaves the text of a compound. -/
lemma dropWhile {p : Char → Bool} (h : CompoundText t) (closed : "([".toList.all fun c => !p c) :
    CompoundText (t.dropWhile p) := by
  induction h with
  | nil => exact .nil
  | @region brackets body t known balanced later =>
    have opens : brackets.opening ∈ "([".toList := by rcases known with rfl | rfl <;> decide
    have stays : ¬ p brackets.opening := by simpa using List.all_eq_true.1 closed _ opens
    rw [List.cons_append, List.cons_append, List.dropWhile_cons_of_neg stays]
    exact .region known balanced later
  | @char c t visible plain later ih =>
    by_cases taken : p c
    · rw [List.dropWhile_cons_of_pos taken]
      exact ih
    · rw [List.dropWhile_cons_of_neg taken]
      exact .char visible plain later

/-- A region that opens in a compound can be read, and the text of a compound goes on behind it. -/
lemma exists_region (h : CompoundText cursor.rest) (brackets : Brackets)
    (known : Brackets.ofOpening? brackets.opening = some brackets)
    (opens : cursor.peek = some brackets.opening) :
    ∃ body after, cursor.region brackets = (.ok body, after) ∧ CompoundText after.rest := by
  unfold Cursor.peek at opens
  generalize split : cursor.rest = s at h opens
  cases h with
  | nil => cases opens
  | @region brackets' body t known' balanced later =>
    have opens : brackets'.opening = brackets.opening := Option.some.inj opens
    have same : some brackets' = some brackets := by
      rw [← known, ← opens]
      exact (Brackets.ofOpening?_eq_some_iff.2 ⟨rfl, known'⟩).symm
    cases same
    have split : cursor.rest = brackets.opening :: body ++ brackets.closing :: t := by
      simp [split]
    exact ⟨body, _, Cursor.region_of_balanced (Brackets.distinct_of_known known') balanced split,
      later⟩
  | char _ plain =>
    cases opens
    rcases (Brackets.ofOpening?_eq_some_iff.1 known).2 with rfl | rfl <;>
      exact absurd (by decide) plain

/-- A region that is read leaves the text of a compound. -/
lemma of_region {body : Text} (h : CompoundText cursor.rest)
    (region : cursor.region brackets = (.ok body, after))
    (known : Brackets.ofOpening? brackets.opening = some brackets) : CompoundText after.rest := by
  obtain ⟨_, _, opens, -⟩ := Cursor.region_eq_ok_iff.1 region
  obtain ⟨_, _, region', later⟩ := h.exists_region brackets known (congrArg List.head? opens)
  cases region.symm.trans region'
  exact later

/-- The mark of a simple selector and a run of characters leave the text of a compound. -/
lemma of_run {c : Char} {rest run : Text} {p : Char → Bool} (h : CompoundText cursor.rest)
    (first : cursor.rest = c :: rest) (plain : c ∉ "([".toList)
    (closed : "([".toList.all fun c => !p c)
    (read : (cursor.past [c] rest).takeWhile p = (run, after)) : CompoundText after.rest := by
  rw [first] at h
  obtain ⟨-, rfl⟩ := Prod.mk.inj read
  exact (h.tail plain).dropWhile closed

end CompoundText

/-! ### Regions that are opened -/

/-- Where the reader of simple selectors opens a region: at an attribute test, and at an argument
behind the name of a pseudo-class. -/
inductive Cursor.Opens (cursor : Cursor) : Brackets → Cursor → Prop where
  | attributeTest : cursor.peek = some '[' → Opens cursor .square cursor
  | argument {rest name : Text} {front : Cursor} :
    cursor.rest = ':' :: rest → (cursor.past [':'] rest).name = (name, front) → name ≠ [] →
    front.peek = some '(' → Opens cursor .round front

/-- Up to the bracket the reader moves over a part of the compound. -/
lemma Cursor.Opens.reads (h : cursor.Opens brackets front) : ∃ taken, Reads cursor taken front := by
  cases h with
  | attributeTest => exact ⟨[], .refl cursor⟩
  | argument first read => exact ⟨_, Compound.reads_of_takeWhile isNameChar first read⟩

/-- A region that is opened in a compound is closed there. -/
lemma CompoundText.region_of_opens (h : CompoundText cursor.rest)
    (opens : cursor.Opens brackets front) :
    ∃ body after, front.region brackets = (.ok body, after) := by
  cases opens with
  | attributeTest first =>
    obtain ⟨body, after, region, -⟩ := h.exists_region .square rfl first
    exact ⟨body, after, region⟩
  | argument first read _ argument =>
    have behind : CompoundText front.rest :=
      h.of_run (p := isNameChar) first (by decide) (by decide) read
    obtain ⟨body, after, region, -⟩ := behind.exists_region .round rfl argument
    exact ⟨body, after, region⟩

/-! ### What is not closed -/

/-- The error is a quote or a bracket that is not closed. -/
def Error.Unclosed (e : Error) : Prop := e.cause.kind = .lex

/-- The error is about how a selector is put together, and not about a name or an argument in it. -/
def Error.Formal (e : Error) : Prop := e.Unclosed ∨ e.cause.kind = .structural

/-- What is unknown and what is wrong in an argument are no errors of form. -/
lemma Error.not_formal {cause : Cause} {offset : Nat}
    (other : cause.kind = .unknownPseudoClass ∨ cause.kind = .argument) :
    ¬ (Error.mk cause offset).Formal := by
  rintro (formal | formal)
  all_goals
    change cause.kind = _ at formal
    rw [formal] at other
    rcases other with other | other <;> cases other

namespace Cursor

/-- A region that starts with its bracket is refused only for what is not closed. -/
lemma region_unclosed {rest : Text} (opens : cursor.rest = brackets.opening :: rest)
    (h : cursor.region brackets = (.error e, after)) : e.Unclosed := by
  unfold region at h
  split at h
  · rename_i none
    cases opens.symm.trans none
  · rename_i first
    cases first.symm.trans opens
    rw [if_pos rfl] at h
    split at h <;> cases h
    · rfl
    · rfl

/-- A compound is refused only for what is not closed. -/
lemma compound_unclosed (h : cursor.compound = (.error e, after)) : e.Unclosed := by
  fun_induction compound cursor generalizing after with
  | case1 | case4 | case5 | case7 => cases h
  | case2 cursor c rest first brackets opening e' middle region =>
    cases h
    obtain ⟨rfl, -⟩ := Brackets.ofOpening?_eq_some_iff.1 opening
    exact region_unclosed first region
  | case3 cursor c rest first brackets opening body middle region e' last later ih =>
    cases h
    exact ih later
  | case6 cursor c rest first opening goesOn e' last later ih =>
    cases h
    exact ih later

/-- A selector that cannot be split into tokens holds something that is not closed. -/
lemma tokens_unclosed (h : cursor.tokens.1 = .error e) : e.Unclosed := by
  fun_induction tokens cursor with
  | case1 cursor e' after next =>
    cases h
    unfold Cursor.next at next
    dsimp only at next
    repeat' split at next
    all_goals cases next
    rename_i read
    exact compound_unclosed read
  | case2 | case4 => cases h
  | case3 cursor token middle next e' last later ih =>
    cases h
    exact ih (congrArg Prod.fst later)

/-- Tokens are refused for the same anywhere, at an offset from where they start. -/
lemma tokens_eq_error_iff {base : Nat} :
    (start base t).tokens.1 = .error e ↔
      ∃ e', (start 0 t).tokens.1 = .error e' ∧ e = e'.shift base := by
  have moved := tokens_shift base (.start 0 t)
  rw [show (start 0 t).shift base = start base t from rfl] at moved
  rw [moved]
  cases read : (start 0 t).tokens.1 <;>
    simp [shifted, read, Except.map, Except.mapError, eq_comm]

/-- A pseudo-class with the selector `inner` as its argument stands at the cursor. -/
inductive Nests (cursor : Cursor) : Query → Prop where
  | argument {rest name inner : Text} {front after : Cursor} (nesting : Nesting) :
    cursor.rest = ':' :: rest → (cursor.past [':'] rest).name = (name, front) →
    Text.lower name = nesting.name → front.region .round = (.ok inner, after) →
    Nests cursor ⟨inner, front.offset + 1⟩

end Cursor

/-! ### Where the form is wrong -/

/-- No simple selector can be read at the cursor: there is a mark without a name behind it, or what
no simple selector starts with.  The reader gives a fragment, which is all that is there, but
without the mark where this is a colon. -/
inductive Cursor.Stumbles (cursor : Cursor) : Text → Prop where
  | mark {c : Char} {rest : Text} :
    cursor.rest = c :: rest → c = '#' ∨ c = '.' → (∀ d ∈ rest.head?, isNameChar d = false) →
    Stumbles cursor cursor.rest
  | colon {rest : Text} :
    cursor.rest = ':' :: rest → (∀ d ∈ rest.head?, isNameChar d = false) → Stumbles cursor rest
  | other {c : Char} {rest : Text} :
    cursor.rest = c :: rest → c ∉ "#.*[:".toList → isTagChar c = false →
    Stumbles cursor cursor.rest

/-- A name is empty where no character of names stands. -/
lemma Cursor.name_eq_nil_iff :
    cursor.name.1 = [] ↔ ∀ c ∈ cursor.rest.head?, isNameChar c = false := by
  constructor
  · intro none
    have split := List.takeWhile_append_dropWhile (p := isNameChar) (l := cursor.rest)
    rw [show cursor.rest.takeWhile isNameChar = [] from none, List.nil_append] at split
    have stop := (Grammar.Run.of_takeWhile isNameChar cursor.rest).stop
    rwa [split] at stop
  · intro stop
    have run : Grammar.Run isNameChar [] cursor.rest := ⟨nofun, stop⟩
    exact run.takeWhile_eq

/-- Where there is no name nothing is taken. -/
lemma Cursor.rest_name (none : cursor.name.1 = []) : cursor.name.2.rest = cursor.rest := by
  have split := (takeWhile_reads isNameChar cursor).rest_eq
  rw [show (cursor.takeWhile isNameChar).1 = [] from none] at split
  exact split.symm

/-! ### What is reached -/

section

variable [PatternEngine] {nested : Nested}

namespace Compound

/-- The cursors that the reader of simple selectors comes to. -/
def Reaches (nested : Nested) : Cursor → Cursor → Prop :=
  ReflTransGen fun cursor after => ∃ condition, ReadsSimple nested cursor condition after

/-- A simple selector leaves the text of a compound. -/
lemma ReadsSimple.compoundText {condition : Condition}
    (h : ReadsSimple nested cursor condition after) (compound : CompoundText cursor.rest) :
    CompoundText after.rest := by
  have name : "([".toList.all fun c => !isNameChar c := by decide
  have tag : "([".toList.all fun c => !isTagChar c := by decide
  cases h with
  | id first read | hasClass first read | plain first read =>
    exact compound.of_run first (by decide) name read
  | universal first read | universalTag first read =>
    exact compound.of_run first (by decide) tag read
  | attributeTest _ region => exact compound.of_region region rfl
  | call first read _ region =>
    have front := compound.of_run first (by decide) name read
    exact front.of_region region rfl
  | tag _ _ read =>
    obtain ⟨-, rfl⟩ := Prod.mk.inj read
    exact compound.dropWhile tag

/-- In a compound every place that reading comes to is in front of the text of a compound. -/
lemma Reaches.compoundText (h : Reaches nested cursor after) (compound : CompoundText cursor.rest) :
    CompoundText after.rest := by
  induction h with
  | refl => exact compound
  | tail _ last ih =>
    obtain ⟨condition, last⟩ := last
    exact last.compoundText ih

/-- Reading moves the cursor over a part of what was left. -/
lemma Reaches.reads (h : Reaches nested cursor after) :
    ∃ taken, Cursor.Reads cursor taken after := by
  induction h with
  | refl => exact ⟨[], .refl cursor⟩
  | tail _ last ih =>
    obtain ⟨condition, last⟩ := last
    obtain ⟨taken, front⟩ := ih
    obtain ⟨taken', last⟩ := last.reads
    exact ⟨taken ++ taken', front.trans last⟩

/-- The reader of simple selectors fails where it comes to a simple selector that it cannot read. -/
lemma simples_eq_error_iff :
    simples nested cursor = .error e ↔ ∃ middle c rest, Reaches nested cursor middle ∧
      middle.rest = c :: rest ∧ simple nested middle c rest = .error e := by
  constructor
  · intro h
    fun_induction simples nested cursor with
    | case1 | case4 => cases h
    | case2 cursor c rest first e' failed =>
      cases h
      exact ⟨cursor, c, rest, .refl, first, failed⟩
    | case3 cursor c rest first condition after read e' later ih =>
      obtain ⟨middle, d, rest', reaches, first', failed⟩ := ih (later.trans h)
      have step := (simple_eq_ok_iff first).1 read
      exact ⟨middle, d, rest', .head ⟨condition, step⟩ reaches, first', failed⟩
  · rintro ⟨middle, c, rest, reaches, first, failed⟩
    induction reaches using ReflTransGen.head_induction_on with
    | refl =>
      rw [simples_eq, first]
      dsimp only
      rw [failed]
    | head step _ ih =>
      obtain ⟨condition, step⟩ := step
      rw [simples_of_readsSimple step]
      exact map_eq_error_iff.2 ih

end Compound

/-- An error of form in an argument is one of the selector that is nested in it. -/
lemma Parameter.read_formal {parameter : Parameter} {name argument : Text} {start : Nat}
    (formal : e.Formal) (h : parameter.read nested name argument start = .error e) :
    parameter.kind = .selector ∧ nested argument start = .error e := by
  have explained {result : Except Reason Condition}
      (h : read.explain name argument start result = .error e) : False := by
    cases result <;> cases h
    exact Error.not_formal (.inr rfl) formal
  cases parameter with
  | has | not => exact ⟨rfl, map_eq_error_iff.1 h⟩
  | index | nth | contains | containsData | matchesPattern => exact (explained h).elim

/-- A pseudo-class is refused for its form only if it nests a selector that is refused for it. -/
lemma PseudoClass.compile_formal {name : Text} {colon : Nat} {argument : Option (Text × Nat)}
    (formal : e.Formal) (h : compile nested name colon argument = .error e) :
    ∃ (nesting : Nesting) (inner : Text) (start : Nat), Text.lower name = nesting.name ∧
      argument = some (inner, start) ∧ nested inner start = .error e := by
  unfold compile at h
  split at h
  · cases h
    exact absurd formal (Error.not_formal (.inl rfl))
  · cases h
  · cases h
    exact absurd formal (Error.not_formal (.inr rfl))
  · cases h
    exact absurd formal (Error.not_formal (.inr rfl))
  · rename_i parameter inner start known
    obtain ⟨selector, failed⟩ := Parameter.read_formal formal h
    have member := mem_names known
    rw [show (withArgument parameter).kind = _ from selector] at member
    rcases List.mem_cons.1 member with has | member
    · exact ⟨.has, inner, start, has, rfl, failed⟩
    · exact ⟨.not, inner, start, List.mem_singleton.1 member, rfl, failed⟩

namespace Compound

/-- The form of a simple selector is wrong in a region that is opened there, where the reader
stumbles, or in a selector that is nested there. -/
lemma simple_formal {c : Char} {rest : Text} (formal : e.Formal)
    (first : cursor.rest = c :: rest) (h : simple nested cursor c rest = .error e) :
    (∃ brackets front after, cursor.Opens brackets front ∧
      front.region brackets = (.error e, after)) ∨
    (∃ fragment, cursor.Stumbles fragment ∧ e = ⟨.unexpected fragment, cursor.offset⟩) ∨
    ∃ inner, cursor.Nests inner ∧ nested inner.text inner.base = .error e := by
  unfold simple at h
  dsimp only at h
  split at h
  · split at h <;> cases h
    rename_i nameless
    have stop := Cursor.name_eq_nil_iff.1 (List.isEmpty_iff.1 nameless)
    exact .inr (.inl ⟨_, .mark first (.inl rfl) stop, rfl⟩)
  · split at h <;> cases h
    rename_i nameless
    have stop := Cursor.name_eq_nil_iff.1 (List.isEmpty_iff.1 nameless)
    exact .inr (.inl ⟨_, .mark first (.inr rfl) stop, rfl⟩)
  · split at h <;> cases h
  · split at h
    · rename_i after region
      cases h
      exact .inl ⟨.square, cursor, after, .attributeTest (congrArg List.head? first), region⟩
    · split at h <;> cases h
      rename_i refused
      obtain ⟨argument, reason, rfl⟩ := AttributeTest.read_eq_error refused
      exact absurd formal (Error.not_formal (.inr rfl))
  · unfold pseudoClass at h
    dsimp only at h
    split at h
    · rename_i nameless
      cases h
      have none := List.isEmpty_iff.1 nameless
      exact .inr (.inl ⟨rest, .colon first (Cursor.name_eq_nil_iff.1 none),
        congrArg (fun t => Error.mk (.unexpected t) cursor.offset) (Cursor.rest_name none)⟩)
    · rename_i named
      split at h
      · rename_i opens
        split at h
        · rename_i after region
          cases h
          exact .inl ⟨.round, _, after, .argument first rfl (mt List.isEmpty_iff.2 named) opens,
            region⟩
        · rename_i inner after region
          split at h <;> cases h
          rename_i failed
          obtain ⟨nesting, _, _, named, given, failed⟩ := PseudoClass.compile_formal formal failed
          cases given
          exact .inr (.inr ⟨_, .argument nesting first rfl named region, failed⟩)
      · split at h <;> cases h
        rename_i failed
        obtain ⟨_, _, _, _, none, _⟩ := PseudoClass.compile_formal formal failed
        cases none
  · rename_i hash dot star square colon
    split at h <;> cases h
    rename_i plain
    refine .inr (.inl ⟨_, .other first ?_ (Bool.eq_false_iff.2 plain), rfl⟩)
    simpa using ⟨hash, dot, star, square, colon⟩

/-- A simple selector that stumbles is refused for what it stumbles over. -/
lemma simple_of_stumbles {fragment : Text} (h : cursor.Stumbles fragment) :
    ∃ c rest, cursor.rest = c :: rest ∧
      simple nested cursor c rest = .error ⟨.unexpected fragment, cursor.offset⟩ := by
  cases h with
  | @mark c rest first known stop =>
    have none : (cursor.past [c] rest).name.1 = [] := Cursor.name_eq_nil_iff.2 stop
    refine ⟨c, rest, first, ?_⟩
    rcases known with rfl | rfl
    · simp [simple, none]
    · simp [simple, none]
  | colon first stop =>
    have none : (cursor.past [':'] fragment).name.1 = [] := Cursor.name_eq_nil_iff.2 stop
    have behind : (cursor.past [':'] fragment).name.2.rest = fragment := Cursor.rest_name none
    refine ⟨':', fragment, first, ?_⟩
    simp [simple, pseudoClass, none, behind]
  | @other c rest first other plain =>
    refine ⟨c, rest, first, ?_⟩
    unfold simple
    split
    iterate 5 exact absurd (by decide) other
    rw [if_neg (by simp [plain])]

/-- What is wrong with a nested selector is wrong with the simple selector around it. -/
lemma simple_of_nests {inner : Query} (nests : cursor.Nests inner)
    (failed : nested inner.text inner.base = .error e) :
    ∃ c rest, cursor.rest = c :: rest ∧ simple nested cursor c rest = .error e := by
  cases nests with
  | @argument rest name inner front after nesting first read named region =>
    obtain ⟨_, _, opens, -⟩ := Cursor.region_eq_ok_iff.1 region
    have opens : front.peek = some '(' := congrArg List.head? opens
    have nonempty : name ≠ [] := by
      rintro rfl
      exact Nesting.name_ne_nil named.symm
    have compiled : PseudoClass.compile nested name cursor.offset (some (inner, front.offset + 1)) =
        .error e := (Nesting.compile_of_name named _ _).trans (map_eq_error_iff.2 failed)
    refine ⟨':', rest, first, ?_⟩
    simp [simple, pseudoClass, read, nonempty, opens, region, compiled]

/-- In the text of a compound all regions are closed, so its form is wrong where the reader
stumbles, or in a nested selector. -/
lemma read_formal_iff {offset : Nat} (compound : CompoundText t) (formal : e.Formal) :
    read nested t offset = .error e ↔ ∃ cursor, Reaches nested (.start offset t) cursor ∧
      ((∃ fragment, cursor.Stumbles fragment ∧ e = ⟨.unexpected fragment, cursor.offset⟩) ∨
        ∃ inner, cursor.Nests inner ∧ nested inner.text inner.base = .error e) := by
  refine map_eq_error_iff.trans (simples_eq_error_iff.trans ⟨?_, ?_⟩)
  · rintro ⟨cursor, c, rest, reaches, first, failed⟩
    refine ⟨cursor, reaches, ?_⟩
    rcases simple_formal formal first failed with ⟨_, _, _, opens, region⟩ | found
    · obtain ⟨_, _, region'⟩ := (reaches.compoundText compound).region_of_opens opens
      cases region.symm.trans region'
    · exact found
  · rintro ⟨cursor, reaches, ⟨fragment, stumbles, rfl⟩ | ⟨inner, nests, failed⟩⟩
    · obtain ⟨c, rest, first, failed⟩ := simple_of_stumbles stumbles
      exact ⟨cursor, c, rest, reaches, first, failed⟩
    · obtain ⟨c, rest, first, failed⟩ := simple_of_nests nests failed
      exact ⟨cursor, c, rest, reaches, first, failed⟩

/-- A compound is refused for what is not closed if a selector nested in it is. -/
lemma read_unclosed_iff {offset : Nat} (compound : CompoundText t) (unclosed : e.Unclosed) :
    read nested t offset = .error e ↔ ∃ cursor inner, Reaches nested (.start offset t) cursor ∧
      cursor.Nests inner ∧ nested inner.text inner.base = .error e := by
  rw [read_formal_iff compound (.inl unclosed)]
  constructor
  · rintro ⟨cursor, reaches, ⟨_, _, rfl⟩ | ⟨inner, nests, failed⟩⟩
    · cases unclosed
    · exact ⟨cursor, inner, reaches, nests, failed⟩
  · rintro ⟨cursor, inner, reaches, nests, failed⟩
    exact ⟨cursor, reaches, .inr ⟨inner, nests, failed⟩⟩

end Compound

/-! ### Selectors -/

variable {tokens : List Token} {text : Text} {offset : Nat}

/-- Reading the selector `outer` comes to the selector `inner`, which it nests: there are tokens,
those in front of some compound are read, and so is what stands in this compound in front of a
pseudo-class with the argument `inner`. -/
inductive Query.Reaches (outer : Query) : Query → Prop where
  | argument {before later : List Token} {text : Text} {offset : Nat} {progress : Progress}
      {cursor : Cursor} {inner : Query} :
    (Cursor.start outer.base outer.text).tokens.1 = .ok (before ++ .compound text offset :: later) →
    before.foldlM (Progress.step parseAt outer) .start = .ok progress →
    Compound.Reaches parseAt (.start offset text) cursor → cursor.Nests inner →
    Reaches outer inner

namespace Query.Reaches

variable {outer inner : Query}

/-- A nested selector is shorter than the one around it. -/
lemma length_lt (h : outer.Reaches inner) : inner.text.length < outer.text.length := by
  cases h with
  | @argument before later text _ _ cursor _ tokens _ reaches nests =>
    have short : text.length ≤ outer.text.length :=
      short_of_mem_tokens tokens _ (List.mem_append_right _ (.head _))
    obtain ⟨_, taken⟩ := reaches.reads
    have left : cursor.rest.length ≤ text.length := Nat.le.intro
      ((Nat.add_comm ..).trans taken.length_eq.symm)
    cases nests with
    | argument _ first read _ region =>
      have inside := Compound.argument_length_lt first read region
      exact Nat.lt_of_lt_of_le inside (Nat.le_trans left short)

/-- A nested selector stands in the whole one where its base says. -/
lemma standsIn {whole : Text} (h : outer.Reaches inner) (stands : outer.StandsIn whole) :
    inner.StandsIn whole := by
  cases h with
  | @argument before later text offset _ cursor _ tokens _ reaches nests =>
    have rendering : Rendering .edge outer.base _ outer.text :=
      rendering_of_start tokens
    have compound : (Cursor.start offset text).StandsIn whole :=
      rendering.standsAt (List.mem_append_right _ (.head _)) stands
    obtain ⟨_, reads⟩ := reaches.reads
    have here := (reads.standsIn compound).2
    cases nests with
    | argument _ first read _ region =>
      have behind := ((Compound.reads_of_takeWhile isNameChar first read).standsIn here).2
      exact ((Cursor.region_reads region).standsIn behind).1.left.tail

end Query.Reaches

/-- Nested selectors stand in the whole selector where their bases say. -/
lemma Query.standsIn_of_reaches {outer inner : Query} {whole : Text}
    (h : ReflTransGen Query.Reaches outer inner) (stands : outer.StandsIn whole) :
    inner.StandsIn whole := by
  induction h with
  | refl => exact stands
  | tail _ step ih => exact step.standsIn ih

/-- A selector is refused where a token is. -/
lemma parseAt_of_step {query : Query} {before later : List Token} {token : Token}
    {progress : Progress}
    (read : (Cursor.start query.base query.text).tokens.1 = .ok (before ++ token :: later))
    (run : before.foldlM (Progress.step parseAt query) .start = .ok progress)
    (failed : progress.step parseAt query token = .error e) :
    parseAt query.text query.base = .error e := by
  have stopped := foldlM_eq_error_iff.2 ⟨before, token, later, progress, rfl, run, failed⟩
  rw [parseAt_eq_compile]
  exact Query.compile_eq_error_iff.2 (.inr ⟨_, read, .inl stopped⟩)

/-- A selector is refused for what one of its compounds is refused for. -/
lemma parseAt_of_read {query : Query} {before later : List Token} {progress : Progress}
    (read : (Cursor.start query.base query.text).tokens.1 =
      .ok (before ++ .compound text offset :: later))
    (run : before.foldlM (Progress.step parseAt query) .start = .ok progress)
    (failed : Compound.read parseAt text offset = .error e) :
    parseAt query.text query.base = .error e := by
  refine parseAt_of_step read run (map_eq_error_iff.2 ?_)
  rw [Chain.compound, failed]

/-- What is wrong with a selector that is nested is wrong with the selector around it. -/
lemma Query.Reaches.parseAt_eq {outer inner : Query} (h : outer.Reaches inner)
    (failed : parseAt inner.text inner.base = .error e) :
    parseAt outer.text outer.base = .error e := by
  cases h with
  | argument read run reaches nests =>
    obtain ⟨c, rest, first, failed⟩ := Compound.simple_of_nests nests failed
    exact parseAt_of_read read run
      (map_eq_error_iff.2 (Compound.simples_eq_error_iff.2 ⟨_, c, rest, reaches, first, failed⟩))

/-- If a selector is refused for something of its own or because a nested one is refused, then the
reason lies in this selector or in one that is reached from it at some depth. -/
lemma parseAt_eq_error_iff_reached {own : Query → Prop}
    (once : ∀ query : Query, parseAt query.text query.base = .error e ↔
      own query ∨ ∃ inner, query.Reaches inner ∧ parseAt inner.text inner.base = .error e)
    (query : Query) :
    parseAt query.text query.base = .error e ↔
      ∃ inner, ReflTransGen Query.Reaches query inner ∧ own inner := by
  constructor
  · intro h
    induction size : query.text.length using Nat.strongRecOn generalizing query with
    | ind n ih =>
      rcases (once query).1 h with here | ⟨middle, reaches, failed⟩
      · exact ⟨query, .refl, here⟩
      · obtain ⟨inner, deeper, there⟩ := ih _ (size ▸ reaches.length_lt) middle failed rfl
        exact ⟨inner, .head reaches deeper, there⟩
  · rintro ⟨inner, reaches, there⟩
    induction reaches using ReflTransGen.head_induction_on with
    | refl => exact (once _).2 (.inl there)
    | head step _ ih => exact step.parseAt_eq ih

/-- Commas and combinators leave nothing open. -/
lemma Progress.step_unclosed_iff {query : Query} {progress : Progress} {token : Token}
    (unclosed : e.Unclosed) :
    progress.step nested query token = .error e ↔ ∃ text offset,
      token = .compound text offset ∧ Compound.read nested text offset = .error e := by
  constructor
  · intro h
    match token with
    | .compound text offset =>
      replace h := map_eq_error_iff.1 h
      unfold Chain.compound at h
      split at h
      · rename_i failed
        cases h
        exact ⟨text, offset, rfl, failed⟩
      · split at h <;> cases h
        cases unclosed
    | .separator (.combinator k) offset =>
      replace h := map_eq_error_iff.1 h
      unfold Chain.combinator at h
      split at h <;> cases h
      cases unclosed
    | .separator .comma offset =>
      replace h := map_eq_error_iff.1 h
      unfold Chain.finish at h
      split at h <;> cases h <;> cases unclosed
  · rintro ⟨text, offset, rfl, failed⟩
    refine map_eq_error_iff.2 ?_
    rw [Chain.compound, failed]

/-- At the end of a selector nothing is left open. -/
lemma Progress.finish_unclosed {progress : Progress} {base : Nat} (unclosed : e.Unclosed) :
    progress.finish base ≠ .error e := by
  intro h
  unfold finish at h
  split at h
  · cases h
    cases unclosed
  · cases h
    cases unclosed
  · replace h := map_eq_error_iff.1 h
    unfold Chain.finish at h
    split at h <;> cases h <;> cases unclosed

/-- What is not closed in a selector is found when it is split into tokens, or it is found in a
selector that it nests. -/
lemma parseAt_unclosed_iff (unclosed : e.Unclosed) (query : Query) :
    parseAt query.text query.base = .error e ↔
      (Cursor.start query.base query.text).tokens.1 = .error e ∨
        ∃ inner, query.Reaches inner ∧ parseAt inner.text inner.base = .error e := by
  constructor
  · intro h
    rw [parseAt_eq_compile] at h
    rcases Query.compile_eq_error_iff.1 h with failed | ⟨tokens, read, failed⟩
    · exact .inl failed
    · have rendering : Rendering .edge query.base tokens query.text := rendering_of_start read
      rcases failed with failed | ⟨progress, -, failed⟩
      · obtain ⟨before, token, later, progress, rfl, run, step⟩ := foldlM_eq_error_iff.1 failed
        obtain ⟨text, offset, rfl, refused⟩ := (Progress.step_unclosed_iff unclosed).1 step
        have compound := rendering.compoundText (List.mem_append_right _ (.head _))
        obtain ⟨cursor, inner, reaches, nests, inside⟩ :=
          (Compound.read_unclosed_iff compound unclosed).1 refused
        exact .inr ⟨inner, .argument read run reaches nests, inside⟩
      · exact absurd failed (Progress.finish_unclosed unclosed)
  · rintro (failed | ⟨inner, reaches, failed⟩)
    · rw [parseAt_eq_compile]
      exact Query.compile_eq_error_iff.2 (.inl failed)
    · exact reaches.parseAt_eq failed

/-- A selector is refused for something that is not closed if it is found when this selector, or one
that is reached from it at some depth, is split into tokens. -/
theorem parseAt_unclosed_iff_tokens (query : Query) (unclosed : e.Unclosed) :
    parseAt query.text query.base = .error e ↔ ∃ inner, ReflTransGen Query.Reaches query inner ∧
      (Cursor.start inner.base inner.text).tokens.1 = .error e :=
  parseAt_eq_error_iff_reached (parseAt_unclosed_iff unclosed) query

/-- Wherever the second reader of a compound opens a region, the region is closed in the compound.
So a selector is refused for a quote or a bracket that is not closed exactly if it cannot be split
into tokens, or if reading it comes to a nested selector that cannot, at some depth.  The error is
then the one from the split, moved to the right as far as the nested selector stands. -/
theorem unclosed_found_by_tokens (s : Text) :
    (∀ base tokens text offset nested cursor brackets front,
      (Cursor.start base s).tokens.1 = .ok tokens → .compound text offset ∈ tokens →
      Compound.Reaches nested (.start offset text) cursor → cursor.Opens brackets front →
      ∃ body after taken, front.region brackets = (.ok body, after) ∧
        Cursor.Reads (.start offset text) taken after) ∧
    (∀ e, parse s = .error e ∧ e.Unclosed ↔
      (Cursor.start 0 s).tokens.1 = .error e ∨
        ∃ inner e', TransGen Query.Reaches ⟨s, 0⟩ inner ∧
          (Cursor.start 0 inner.text).tokens.1 = .error e' ∧ e = e'.shift inner.base) ∧
    ∀ inner, TransGen Query.Reaches ⟨s, 0⟩ inner → StandsAt inner.text inner.base s := by
  refine ⟨?_, fun e => ⟨?_, ?_⟩, fun inner reaches => ?_⟩
  · intro base tokens text offset nested cursor brackets front read member reaches opens
    have rendering : Rendering .edge base tokens s := rendering_of_start read
    have compound := reaches.compoundText (rendering.compoundText member)
    obtain ⟨body, after, region⟩ := compound.region_of_opens opens
    obtain ⟨_, there⟩ := reaches.reads
    obtain ⟨_, behind⟩ := opens.reads
    exact ⟨body, after, _, region, (there.trans behind).trans (Cursor.region_reads region)⟩
  · rintro ⟨h, unclosed⟩
    obtain ⟨inner, reaches, failed⟩ :=
      (parseAt_unclosed_iff_tokens ⟨s, 0⟩ unclosed).1 h
    rcases Relation.reflTransGen_iff_eq_or_transGen.1 reaches with rfl | deeper
    · exact .inl failed
    · obtain ⟨e', failed, moved⟩ := Cursor.tokens_eq_error_iff.1 failed
      exact .inr ⟨inner, e', deeper, failed, moved⟩
  · rintro (failed | ⟨inner, e', deeper, failed, moved⟩)
    · have unclosed := Cursor.tokens_unclosed failed
      exact ⟨(parseAt_unclosed_iff_tokens ⟨s, 0⟩ unclosed).2 ⟨_, .refl, failed⟩, unclosed⟩
    · have failed := Cursor.tokens_eq_error_iff.2 ⟨e', failed, moved⟩
      have unclosed := Cursor.tokens_unclosed failed
      exact ⟨(parseAt_unclosed_iff_tokens ⟨s, 0⟩ unclosed).2
        ⟨inner, deeper.to_reflTransGen, failed⟩, unclosed⟩
  · exact Query.standsIn_of_reaches reaches.to_reflTransGen .all

end

attribute [local instance] Pattern.engine

/-- The bracket is inside two regions that are closed, and open in the selector between them. -/
example : (Cursor.start 0 "a[".toList).tokens.1 = .error ⟨.unbalanced '[' "[".toList, 1⟩ ∧
    (Cursor.start 0 "ü:not(:has(a[))".toList).tokens.1.isOk ∧
    (parse "ü:not(:has(a[))".toList).map (fun _ => ()) =
      .error ⟨.unbalanced '[' "[".toList, 13⟩ := by
  decide +kernel

end TreeQuery.Selector
