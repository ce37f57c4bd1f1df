import TreeQuery.Pattern.Basic
import TreeQuery.Proofs.Selector.Names
import TreeQuery.Proofs.Selector.Unfinished
import TreeQuery.Proofs.Text.Words
import TreeQuery.Selector.Matching

/-!
# Writing any text

Whatever one looks for can be written in a selector.  In an argument a backslash goes in front of
every bracket, quote and backslash, and the reader takes it away again.  In an attribute test a
value stands between quotes, which hide everything else in it, and white space around it is passed
over.  Main statements: `parse_search` and `parse_attributeValue`.
-/

namespace TreeQuery

/-! ### Texts -/

namespace Text

/-- The characters that an argument cannot hold by themselves. -/
def hiders : Text := ['\\', '(', ')', '\'', '"']

/-- The text as it is written in an argument. -/
def escape (t : Text) : Text := t.flatMap fun c => if c ∈ hiders then ['\\', c] else [c]

variable {needle t : Text} {c : Char}

/-- A character that needs it is hidden by a backslash. -/
lemma escape_cons_of_mem (member : c ∈ hiders) (t : Text) :
    escape (c :: t) = '\\' :: c :: escape t := by
  rw [escape, List.flatMap_cons, if_pos member]
  rfl

/-- Any other character is written as itself. -/
lemma escape_cons_of_not_mem (plain : c ∉ hiders) (t : Text) : escape (c :: t) = c :: escape t := by
  rw [escape, List.flatMap_cons, if_neg plain]
  rfl

/-- What is escaped is read back. -/
lemma unescape_escape (t : Text) : unescape (escape t) = t := by
  induction t with
  | nil => rfl
  | cons c t ih =>
    by_cases member : c ∈ hiders
    · rw [escape_cons_of_mem member, unescape, ih]
    · have visible : c ≠ '\\' := by
        rintro rfl
        exact absurd (by decide) member
      rw [escape_cons_of_not_mem member, unescape_cons_of_ne visible, ih]

/-- A text contains another one that is an infix of it. -/
lemma contains_iff : contains needle t ↔ needle <:+: t := by
  induction t with
  | nil => rw [contains, List.isEmpty_iff, List.infix_nil]
  | cons c t ih =>
    rw [contains, Bool.or_eq_true, ih, List.isPrefixOf_iff_prefix, List.infix_cons_iff]

end Text

namespace Selector

variable {t : Text} {c : Char}

/-! ### Regions -/

/-- Characters that a region takes for themselves. -/
lemma Balanced.of_chars {brackets : Brackets}
    (plain : ∀ c ∈ t, c ∉ ['\\', '"', '\'', brackets.opening, brackets.closing]) :
    Balanced brackets t := by
  induction t with
  | nil => exact .nil
  | cons c t ih =>
    obtain ⟨here, later⟩ := List.forall_mem_cons.1 plain
    simp only [List.mem_cons, List.not_mem_nil, or_false, not_or] at here
    obtain ⟨visible, double, single, inner, outer⟩ := here
    exact .plain visible (by simp [isQuote, double, single]) inner outer (ih later)

/-- A text without backslashes and without the quote may stand inside quotes. -/
lemma Quoted.of_chars {quote : Char} (visible : '\\' ∉ t) (inside : quote ∉ t) :
    Quoted quote t := by
  induction t with
  | nil => exact .nil
  | cons c t ih =>
    rw [List.mem_cons, not_or] at visible inside
    exact .plain (Ne.symm visible.1) (Ne.symm inside.1) (ih visible.2 inside.2)

/-- Round brackets are balanced in an escaped text, which shows none. -/
lemma balanced_escape (t : Text) : Balanced .round (Text.escape t) := by
  induction t with
  | nil => exact .nil
  | cons c t ih =>
    by_cases member : c ∈ Text.hiders
    · rw [Text.escape_cons_of_mem member]
      exact .hidden ih
    · rw [Text.escape_cons_of_not_mem member]
      simp only [Text.hiders, List.mem_cons, List.not_mem_nil, or_false, not_or] at member
      obtain ⟨visible, inner, outer, single, double⟩ := member
      exact .plain visible (by simp [isQuote, double, single]) inner outer ih

/-! ### White space -/

variable {key w₁ w₂ : Text}

/-- No white space stands at the ends of a name. -/
lemma IsName.trimmed {name : Text} (named : IsName name) : Text.Trimmed name where
  head c first := (plain_of_isNameChar (named.chars c (List.mem_of_mem_head? first))).1
  last c last := (plain_of_isNameChar (named.chars c (List.mem_of_mem_getLast? last))).1

/-- Some characters stand neither in names nor in white space. -/
lemma not_mem_of_spaced {marks : Text} (named : IsName key) (blank₁ : Blank w₁) (blank₂ : Blank w₂)
    (solid : marks.all fun c => !Text.isBlank c && !isNameChar c) :
    ∀ c ∈ w₁ ++ key ++ w₂, c ∉ marks := by
  intro c member mark
  have other := List.all_eq_true.1 solid c mark
  rw [Bool.and_eq_true, Bool.not_eq_true', Bool.not_eq_true'] at other
  rw [List.mem_append, List.mem_append] at member
  rcases member with (member | member) | member
  · exact Bool.false_ne_true (other.1.symm.trans (blank₁ c member))
  · exact Bool.false_ne_true (other.2.symm.trans (named.chars c member))
  · exact Bool.false_ne_true (other.1.symm.trans (blank₂ c member))

/-- No quote is white space. -/
lemma isBlank_of_isQuote {quote : Char} (quotes : isQuote quote) : Text.isBlank quote = false := by
  rcases Bool.or_eq_true_iff.1 quotes with e | e
  · cases beq_iff_eq.1 e
    decide
  · cases beq_iff_eq.1 e
    decide

/-- White space is balanced. -/
lemma balanced_blank (blank : Blank w₁) : Balanced .square w₁ := by
  refine .of_chars fun c member mark => ?_
  have solid : ['\\', '"', '\'', '[', ']'].all fun c => !Text.isBlank c := by decide
  have other := List.all_eq_true.1 solid c mark
  rw [blank c member] at other
  cases other

section

variable [PatternEngine]

/-! ### Search texts -/

namespace Spells

variable {name argument inner : Text} {condition : Condition}

/-- A pseudo-class with an argument in which round brackets are balanced. -/
lemma call (named : IsName name) (balanced : Balanced .round argument)
    (compiled : ∀ start,
      PseudoClass.compile parseAt name 0 (some (argument, start)) = .ok condition) :
    Spells (':' :: name ++ ('(' :: argument ++ [')'])) [condition] := by
  have run : Grammar.Run isNameChar name ('(' :: argument ++ [')']) :=
    ⟨named.chars, fun c first => by cases first; decide⟩
  have front : CompoundText (':' :: name) := .char (by decide) (by decide) named.compoundText
  have region : CompoundText ('(' :: argument ++ [')']) := .of_balanced (.inl rfl) balanced
  exact single (front.append region) (.call rfl (Cursor.takeWhile_of_run run rfl) named.nonempty
    (Cursor.region_of_balanced Brackets.distinct_round balanced rfl) (compiled _)) rfl

/-- An attribute test in which square brackets are balanced. -/
lemma attributeTest (balanced : Balanced .square inner)
    (read : AttributeTest.read inner 0 = .ok condition) :
    Spells ('[' :: inner ++ [']']) [condition] := by
  have region : CompoundText ('[' :: inner ++ [']']) := .of_balanced (.inr rfl) balanced
  exact single region (.attributeTest rfl
    (Cursor.region_of_balanced Brackets.distinct_square balanced rfl) read) rfl

/-- A pseudo-class that looks for a text finds the one that is escaped in its argument. -/
lemma search {f : Text → Condition} (named : IsName name) (nonempty : t ≠ [])
    (compiles : ∀ argument start, PseudoClass.compile parseAt name 0 (some (argument, start)) =
      Parameter.read.explain name argument start ((Parameter.searchText argument).map f)) :
    Spells (':' :: name ++ ('(' :: Text.escape t ++ [')'])) [f (Text.lower t)] := by
  have searched : Parameter.searchText (Text.escape t) = .ok (Text.lower t) := by
    obtain ⟨c, rest, rfl⟩ := List.exists_cons_of_ne_nil nonempty
    rw [Parameter.searchText, Text.unescape_escape]
  refine call named (balanced_escape t) fun start => ?_
  rw [compiles, searched]
  rfl

end Spells

open Text (escape lower)

/-- Any text that is not empty is looked for by one of three pseudo-classes if it is escaped in the
argument, and it is found where it stands in the text or the data of an element, up to case. -/
theorem parse_search (nonempty : t ≠ []) :
    parse (":contains(".toList ++ escape t ++ [')']) = .ok (.contains .whole (lower t)) ∧
    parse (":containsOwn(".toList ++ escape t ++ [')']) = .ok (.contains .own (lower t)) ∧
    parse (":containsData(".toList ++ escape t ++ [')']) = .ok (.containsData (lower t)) ∧
    ∀ tree root element,
      ((Condition.contains .whole (lower t)).holds tree root element ↔
        lower t <:+: lower (tree.text element)) ∧
      ((Condition.contains .own (lower t)).holds tree root element ↔
        lower t <:+: lower (tree.ownText element)) ∧
      ((Condition.containsData (lower t)).holds tree root element ↔
        lower t <:+: lower (tree.data element)) := by
  have named : IsName "contains".toList := by decide +kernel
  have named' : IsName "containsOwn".toList := by decide +kernel
  have named'' : IsName "containsData".toList := by decide +kernel
  have whole : Spells _ [.contains .whole (lower t)] := .search named nonempty fun _ _ => rfl
  have own : Spells _ [.contains .own (lower t)] := .search named' nonempty fun _ _ => rfl
  have data : Spells _ [.containsData (lower t)] := .search named'' nonempty fun _ _ => rfl
  refine ⟨whole.parse_eq (List.cons_ne_nil _ _), own.parse_eq (List.cons_ne_nil _ _),
    data.parse_eq (List.cons_ne_nil _ _), fun tree root element => ⟨?_, ?_, ?_⟩⟩
  · exact Text.contains_iff
  · exact Text.contains_iff
  · exact Text.contains_iff

end

section

attribute [local instance] Pattern.engine

/-- A text with brackets, quotes and a backslash at its end. -/
theorem parse_search_hiders :
    "O\"É (> [,\\".toList ≠ [] ∧
      parse ":contains(O\\\"É \\(> [,\\\\)".toList = .ok (.contains .whole "o\"É (> [,\\".toList) ∧
      parse ":containsOwn(O\\\"É \\(> [,\\\\)".toList =
        .ok (.contains .own "o\"É (> [,\\".toList) ∧
      parse ":containsData(O\\\"É \\(> [,\\\\)".toList =
        .ok (.containsData "o\"É (> [,\\".toList) := by
  have nonempty : "O\"É (> [,\\".toList ≠ [] := by decide
  obtain ⟨whole, own, data, -⟩ := parse_search nonempty
  exact ⟨nonempty, whole, own, data⟩

end

/-! ### Attribute values -/

section

variable [PatternEngine] {value written w₃ w₄ : Text}

namespace AttributeTest
open Grammar (marks)

/-- What is read in front of a comparison is the name, and what is read behind it the value. -/
lemma read_comparison {front : Text} (comparison : Comparison) (after : Text) (only : '=' ∉ front)
    (plain : ∀ c ∈ front.getLast?, c ∉ marks) (named : Text.trim front ≠ [])
    (given : Text.trim (unquote (Text.trim after)) ≠ []) (offset : Nat) :
    read (front ++ comparison.symbol ++ after) offset =
      .ok (.attributeValue (Text.lower (Text.trim front)) comparison
        (Text.lower (Text.trim (unquote (Text.trim after))))) := by
  -- All comparisons but one have a mark in front of the equals sign.
  obtain ⟨mark, symbol, none, split⟩ : ∃ mark, comparison.symbol = mark ++ ['='] ∧ '=' ∉ mark ∧
      splitOperator (front ++ mark) = (front, .compare comparison) := by
    cases comparison with
    | equals => exact ⟨[], rfl, nofun, (List.append_nil front).symm ▸ splitOperator_equals plain⟩
    | differs => exact ⟨['!'], rfl, by decide, splitOperator_operator rfl⟩
    | startsWith => exact ⟨['^'], rfl, by decide, splitOperator_operator rfl⟩
    | endsWith => exact ⟨['$'], rfl, by decide, splitOperator_operator rfl⟩
    | contains => exact ⟨['*'], rfl, by decide, splitOperator_operator rfl⟩
  have run : Grammar.Run (· != '=') (front ++ mark) ('=' :: after) := by
    refine ⟨fun c member => bne_iff_ne.2 ?_, fun c first => by cases first; rfl⟩
    rintro rfl
    exact (List.mem_append.1 member).elim only none
  have whole : front ++ comparison.symbol ++ after = front ++ mark ++ '=' :: after := by
    simp [symbol]
  rw [whole]
  refine read_eq_ok_iff.2 (.value run.dropWhile_eq ?_ named rfl given)
  rw [run.takeWhile_eq]
  exact split

end AttributeTest

/-- A comparison is read with white space around its name and around its value, however the value is
written. -/
lemma parse_comparison (comparison : Comparison) (named : IsName key) (blank₁ : Blank w₁)
    (blank₂ : Blank w₂) (blank₃ : Blank w₃) (blank₄ : Blank w₄)
    (balanced : Balanced .square written)
    (means : Text.trim (AttributeTest.unquote (Text.trim written)) = value) (given : value ≠ []) :
    parse ('[' :: (w₁ ++ key ++ w₂ ++ comparison.symbol ++ (w₃ ++ written ++ w₄)) ++ [']']) =
      .ok (.attributeValue (Text.lower key) comparison (Text.lower value)) := by
  have spaced {marks : Text} := @not_mem_of_spaced key w₁ w₂ marks named blank₁ blank₂
  have name : Text.trim (w₁ ++ key ++ w₂) = key := by
    rw [Text.trim_between blank₁ blank₂, named.trimmed.trim_eq]
  have read := AttributeTest.read_comparison comparison (w₃ ++ written ++ w₄)
    (fun member => @spaced ['='] (by decide +kernel) _ member (.head _))
    (fun c last => spaced (by decide +kernel) c (List.mem_of_mem_getLast? last))
    (by rw [name]; exact named.nonempty)
    (by rw [Text.trim_between blank₃ blank₄, means]; exact given) 0
  rw [name, Text.trim_between blank₃ blank₄, means] at read
  have front : Balanced .square (w₁ ++ key ++ w₂) := .of_chars (spaced (by decide +kernel))
  have symbol : Balanced .square comparison.symbol := by
    cases comparison <;> exact .of_chars (by simp [Comparison.symbol, Brackets.square])
  have value := ((balanced_blank blank₃).append balanced).append (balanced_blank blank₄)
  exact (Spells.attributeTest ((front.append symbol).append value) read).parse_eq
    (List.cons_ne_nil _ _)

/-- A value between quotes may hold anything but the quote and a backslash, if it is not blank.  It
is compared without the white space at its ends, and in small letters, and so is the name.  Without
the quotes the test means the same unless there are other quotes or square brackets in the value. -/
theorem parse_attributeValue {quote : Char} (comparison : Comparison) (named : IsName key)
    (blank₁ : Blank w₁) (blank₂ : Blank w₂) (blank₃ : Blank w₃) (blank₄ : Blank w₄)
    (quotes : isQuote quote) (inside : quote ∉ value) (visible : '\\' ∉ value)
    (solid : ¬ Blank value) :
    parse ('[' :: (w₁ ++ key ++ w₂ ++ comparison.symbol ++
        (w₃ ++ (quote :: value ++ [quote]) ++ w₄)) ++ [']']) =
      .ok (.attributeValue (Text.lower key) comparison (Text.lower (Text.trim value))) ∧
    ((∀ c ∈ value, isQuote c = false ∧ c ≠ '[' ∧ c ≠ ']') →
      parse ('[' :: (w₁ ++ key ++ w₂ ++ comparison.symbol ++ (w₃ ++ value ++ w₄)) ++ [']']) =
        .ok (.attributeValue (Text.lower key) comparison (Text.lower (Text.trim value)))) := by
  have given : Text.trim value ≠ [] := mt Text.trim_eq_nil_iff.1 solid
  constructor
  · have balanced : Balanced .square (quote :: value ++ [quote]) :=
      .quoted quotes (.of_chars visible inside) .nil
    have shown : Text.isBlank quote = false := isBlank_of_isQuote quotes
    have trimmed : Text.Trimmed (quote :: value ++ [quote]) := by
      refine ⟨fun c first => ?_, fun c last => ?_⟩
      · cases first
        exact shown
      · rw [List.getLast?_concat] at last
        cases last
        exact shown
    refine parse_comparison comparison named blank₁ blank₂ blank₃ blank₄ balanced ?_ given
    rw [trimmed.trim_eq, AttributeTest.unquote_quoted value quotes]
  · intro plain
    have balanced : Balanced .square value := by
      refine .of_chars fun c member => ?_
      obtain ⟨unquoted, inner, outer⟩ := plain c member
      have shown : c ≠ '\\' := fun e => visible (e ▸ member)
      simp_all [isQuote, Brackets.square]
    have bare : AttributeTest.unquote (Text.trim value) = Text.trim value := by
      refine AttributeTest.unquote_bare fun q s quote e => ?_
      have member : q ∈ value := Text.trim_subset value (e ▸ .head _)
      exact Bool.false_ne_true ((plain q member).1.symm.trans quote)
    refine parse_comparison comparison named blank₁ blank₂ blank₃ blank₄ balanced ?_ given
    rw [bare, (Text.trimmed_trim value).trim_eq]

end

attribute [local instance] Pattern.engine

/-- A value with both brackets, an equals sign and the other quote, and white space all around. -/
theorem parse_attributeValue_hidden :
    IsName "Größe".toList ∧ Blank [' '] ∧ Blank ['\t'] ∧ Blank ['\n'] ∧ isQuote '\'' ∧
      '\'' ∉ " ]A[*=\", ".toList ∧ '\\' ∉ " ]A[*=\", ".toList ∧ ¬ Blank " ]A[*=\", ".toList ∧
      parse "[ Größe\t^=\n' ]A[*=\", ' ]".toList =
        .ok (.attributeValue "größe".toList .startsWith "]a[*=\",".toList) ∧
      parse "[ Größe\t^=\n A*=, > b ]".toList =
        .ok (.attributeValue "größe".toList .startsWith "a*=, > b".toList) := by
  have named : IsName "Größe".toList := by decide +kernel
  have space : Blank [' '] := List.forall_mem_singleton.2 (by decide)
  have tab : Blank ['\t'] := List.forall_mem_singleton.2 (by decide)
  have line : Blank ['\n'] := List.forall_mem_singleton.2 (by decide)
  have quotes : isQuote '\'' := by decide
  have shown {c : Char} {t : Text} (member : c ∈ t) (visible : Text.isBlank c = false) :
      ¬ Blank t := fun blank => Bool.false_ne_true (visible.symm.trans (blank c member))
  have inside : '\'' ∉ " ]A[*=\", ".toList := by decide
  have visible : '\\' ∉ " ]A[*=\", ".toList := by decide
  have solid : ¬ Blank " ]A[*=\", ".toList := @shown ']' _ (by decide) (by decide)
  have inside' : '\'' ∉ " A*=, > b".toList := by decide
  have visible' : '\\' ∉ " A*=, > b".toList := by decide
  have solid' : ¬ Blank " A*=, > b".toList := @shown 'A' _ (by decide) (by decide)
  obtain ⟨hidden, -⟩ :=
    parse_attributeValue .startsWith named space tab line space quotes inside visible solid
  obtain ⟨-, bare⟩ :=
    parse_attributeValue .startsWith named space tab line space quotes inside' visible' solid'
  have plain : ∀ c ∈ " A*=, > b".toList, isQuote c = false ∧ c ≠ '[' ∧ c ≠ ']' := by
    simp [isQuote]
  exact ⟨named, space, tab, line, quotes, inside, visible, solid, hidden, bare plain⟩

end Selector
end TreeQuery
