import TreeQuery.Pattern.Basic
import TreeQuery.Proofs.Selector.Names
import TreeQuery.Proofs.Selector.Origins
import TreeQuery.Selector.Matching

/-!
# Empty names

The names and values that a selector asks for are checked to be there when they are read.  Only tags
are changed after that: the bars in front of them are dropped, and of a tag that is written with
bars alone nothing is left.  A test for the empty tag stands in what a selector compiles to exactly
where such a tag is written, and no element with a tag meets it.  Main statement:
`names_empty_iff_bars`.
-/

namespace TreeQuery.Selector
open Relation (ReflTransGen)

/-! ### Bars -/

/-- A tag that is written with bars alone, in front of a text that does not go on with it. -/
structure Bars (run rest : Text) : Prop where
  nonempty : run ≠ []
  all : ∀ c ∈ run, c = '|'
  stop : ∀ c ∈ rest.head?, isTagChar c = false

variable {run rest written : Text}

/-- Bars are dropped in front of a tag and kept as colons behind its first letter. -/
lemma normalizeTag_eq_nil_iff : normalizeTag written = [] ↔ ∀ c ∈ written, c = '|' := by
  rw [normalizeTag, Text.lower_eq_nil_iff, List.map_eq_nil_iff, List.dropWhile_eq_nil_iff]
  simp only [beq_iff_eq]

namespace Bars

/-- Bars are a run of characters of tags. -/
lemma run_isTagChar (bars : Bars run rest) : Grammar.Run isTagChar run rest where
  all c member := by
    rw [bars.all c member]
    decide +kernel
  stop := bars.stop

/-- A run of characters of tags that gives no name is bars. -/
lemma of_run (read : Grammar.Run isTagChar run rest) (nonempty : run ≠ [])
    (empty : normalizeTag run = []) : Bars run rest :=
  ⟨nonempty, normalizeTag_eq_nil_iff.1 empty, read.stop⟩

/-- Bars are written as a compound is. -/
lemma compoundText (bars : Bars run rest) : CompoundText run := by
  refine .of_chars fun c member => ?_
  rw [bars.all c member]
  decide

end Bars

section

variable [PatternEngine]

/-- The names and the values that the test compares with. -/
def Condition.names : Condition → List Text
  | universal name => name.toList
  | tag name | id name | hasClass name | hasAttribute name | attributeStarting name
  | attributeMatches name _ => [name]
  | attributeValue name _ value => [name, value]
  | _ => []

/-- The simple selector at the cursor is a tag that is written with bars alone, by itself or after a
star, and the test that it compiles to. -/
inductive Cursor.NamesBars (cursor : Cursor) : Condition → Prop where
  | tag {run rest : Text} : cursor.rest = run ++ rest → Bars run rest → NamesBars cursor (.tag [])
  | universal {run rest : Text} :
    cursor.rest = '*' :: run ++ rest → Bars run rest → NamesBars cursor (.universal (some []))

/-! ### Tags -/

variable {nested : Nested} {cursor : Cursor}

namespace Bars

/-- Bars by themselves are read as the tag without a name. -/
lemma reads_tag (bars : Bars run rest) (split : cursor.rest = run ++ rest) :
    Compound.ReadsSimple nested cursor (.tag []) (cursor.past run rest) := by
  obtain ⟨c, more, first⟩ := List.exists_cons_of_ne_nil bars.nonempty
  have letter : isTagChar c := bars.run_isTagChar.all c (first ▸ .head _)
  have starts : cursor.rest = c :: (more ++ rest) := split.trans (congrArg (· ++ rest) first)
  have read := Cursor.takeWhile_of_run bars.run_isTagChar split
  have reads : Compound.ReadsSimple nested cursor (.tag (normalizeTag run)) _ :=
    .tag starts letter read
  rwa [normalizeTag_eq_nil_iff.2 bars.all] at reads

/-- Bars behind a star are read as the universal selector without a name. -/
lemma reads_universal (bars : Bars run rest) (split : cursor.rest = '*' :: run ++ rest) :
    Compound.ReadsSimple nested cursor (.universal (some []))
      ((cursor.past ['*'] (run ++ rest)).past run rest) := by
  have read : (cursor.past ['*'] (run ++ rest)).tag = _ :=
    Cursor.takeWhile_of_run bars.run_isTagChar rfl
  have reads : Compound.ReadsSimple nested cursor (.universal (some (normalizeTag run))) _ :=
    .universalTag split read bars.nonempty
  rwa [normalizeTag_eq_nil_iff.2 bars.all] at reads

/-- Bars are a compound of one simple selector. -/
lemma spells_tag (bars : Bars run []) : Spells run [.tag []] :=
  .single bars.compoundText (bars.reads_tag (List.append_nil run).symm) rfl

/-- A star and bars are a compound of one simple selector. -/
lemma spells_universal (bars : Bars run []) : Spells ('*' :: run) [.universal (some [])] :=
  .single (.char (by decide) (by decide) bars.compoundText)
    (bars.reads_universal (congrArg _ (List.append_nil run).symm)) rfl

end Bars

/-! ### Simple selectors -/

/-- Only tests that simple selectors compile to ask for names. -/
lemma Condition.isSimple_of_mem_names {part : Condition} {name : Text} (h : name ∈ part.names) :
    part.isSimple ∧ part ≠ .scope := by
  cases part <;> first | exact absurd h List.not_mem_nil | exact ⟨rfl, nofun⟩

variable {part condition : Condition}

/-- Pseudo-classes ask for no names. -/
lemma PseudoClass.names_of_compile {name : Text} {colon : Nat} {argument : Option (Text × Nat)}
    (h : compile nested name colon argument = .ok condition) : condition.names = [] := by
  rcases compile_eq_ok_iff.1 h with ⟨known, -⟩ | ⟨parameter, text, start, -, -, read⟩
  · have plain := isPlain_of_ofName? known
    cases condition <;> first | rfl | cases plain
  · cases parameter with
    | has | not =>
      obtain ⟨inner, -, rfl⟩ := map_eq_ok_iff.1 read
      rfl
    | _ =>
      obtain ⟨a, -, rfl⟩ := Parameter.explain_map_eq_ok_iff.1 read
      rfl

/-- Attribute tests ask for names and values that are not empty. -/
lemma AttributeTest.Reads.names_nonempty {inner : Text} (h : Reads inner condition) :
    [] ∉ condition.names := by
  have kept {t : Text} (nonempty : t ≠ []) : [] ≠ Text.lower t := fun empty =>
    nonempty (Text.lower_eq_nil_iff.1 empty.symm)
  cases h with
  | starting _ _ nonempty => simp [Condition.names, kept nonempty]
  | name _ nonempty => simp [Condition.names, kept nonempty]
  | value _ _ named _ given => simp [Condition.names, kept named, kept given]
  | pattern _ _ named => simp [Condition.names, kept named]

/-- A simple selector asks for an empty name exactly if it is a tag of bars alone. -/
lemma readsSimple_nameless_iff :
    (∃ after, Compound.ReadsSimple nested cursor part after) ∧ [] ∈ part.names ↔
      cursor.NamesBars part := by
  constructor
  · rintro ⟨⟨after, reads⟩, empty⟩
    cases reads with
    | id _ _ named | hasClass _ _ named => exact absurd (List.mem_singleton.1 empty).symm named
    | universal => cases empty
    | @universalTag _ tag _ first read named =>
      have empty : normalizeTag tag = [] := (List.mem_singleton.1 empty).symm
      obtain ⟨split, letters⟩ := Cursor.run_of_takeWhile read
      rw [empty]
      exact .universal (first.trans (congrArg _ split)) (.of_run letters named empty)
    | attributeTest _ _ read =>
      exact absurd empty (AttributeTest.read_eq_ok_iff.1 read).names_nonempty
    | plain _ _ _ _ compiled | call _ _ _ _ compiled =>
      rw [PseudoClass.names_of_compile compiled] at empty
      cases empty
    | @tag c _ tag after first letter read =>
      have empty : normalizeTag tag = [] := (List.mem_singleton.1 empty).symm
      obtain ⟨split, letters⟩ := Cursor.run_of_takeWhile read
      have nonempty : tag ≠ [] := by
        rintro rfl
        have stop := letters.stop c (congrArg List.head? (split.symm.trans first))
        cases stop.symm.trans letter
      rw [empty]
      exact .tag split (.of_run letters nonempty empty)
  · intro h
    cases h with
    | tag split bars => exact ⟨⟨_, bars.reads_tag split⟩, .head _⟩
    | universal split bars => exact ⟨⟨_, bars.reads_universal split⟩, .head _⟩

/-- No element that has a tag is found by an empty one. -/
lemma Cursor.NamesBars.tag_eq_nil {tree : Tree} {root element : NodeId}
    (bars : cursor.NamesBars part) (h : part.holds tree root element) : tree.tag element = [] := by
  cases bars <;> exact Text.lower_eq_nil_iff.1 (beq_iff_eq.1 h)

/-! ### Selectors -/

/-- Every empty name comes from a tag of bars alone, and every such tag leaves one behind. -/
lemma nameless_within_iff (query : Query) (h : parseAt query.text query.base = .ok condition) :
    part.Within condition ∧ [] ∈ part.names ↔
      ∃ inner cursor, ReflTransGen Query.Reaches query inner ∧ inner.ComesTo cursor ∧
        cursor.NamesBars part := by
  constructor
  · rintro ⟨within, empty⟩
    obtain ⟨simple, other⟩ := Condition.isSimple_of_mem_names empty
    obtain ⟨inner, cursor, after, reaches, here, reads⟩ :=
      (within_iff_read query simple other h).1 within
    exact ⟨inner, cursor, reaches, here, readsSimple_nameless_iff.1 ⟨⟨after, reads⟩, empty⟩⟩
  · rintro ⟨inner, cursor, reaches, here, bars⟩
    obtain ⟨⟨after, reads⟩, empty⟩ := readsSimple_nameless_iff.2 bars
    obtain ⟨simple, other⟩ := Condition.isSimple_of_mem_names empty
    exact ⟨(within_iff_read query simple other h).2
      ⟨inner, cursor, after, reaches, here, reads⟩, empty⟩

/-- Of all names and values that are asked for in what a selector compiles to, only tags may be
empty, and no element that has a tag is found by an empty one.  There is an empty tag exactly if
reading the selector, or one that it nests at some depth, comes to a tag that is written with bars
alone. -/
theorem names_empty_iff_bars {s : Text} (h : parse s = .ok condition) :
    (∀ part : Condition, part.Within condition → [] ∈ part.names →
      (part = .tag [] ∨ part = .universal (some [])) ∧
        ∀ tree root element, part.holds tree root element → tree.tag element = []) ∧
    ∀ part : Condition, part.Within condition ∧ [] ∈ part.names ↔
      ∃ inner cursor, ReflTransGen Query.Reaches ⟨s, 0⟩ inner ∧ inner.ComesTo cursor ∧
        cursor.NamesBars part := by
  refine ⟨fun part within empty => ?_, fun part => nameless_within_iff ⟨s, 0⟩ h⟩
  obtain ⟨inner, cursor, -, -, bars⟩ := (nameless_within_iff ⟨s, 0⟩ h).1 ⟨within, empty⟩
  refine ⟨?_, fun tree root element holds => bars.tag_eq_nil holds⟩
  cases bars with
  | tag => exact .inl rfl
  | universal => exact .inr rfl

end

attribute [local instance] Pattern.engine

/-- A tag of bars after a star, in a selector inside another one. -/
theorem names_empty_nested :
    parse "p:has(*||.é)".toList =
        .ok (.all [.tag ['p'], .has (.all [.universal (some []), .hasClass ['é']])]) ∧
      ∃ inner cursor, ReflTransGen Query.Reaches ⟨"p:has(*||.é)".toList, 0⟩ inner ∧
        inner.ComesTo cursor ∧ cursor.NamesBars (.universal (some [])) := by
  have bars : Bars "||".toList [] := ⟨by decide, by simp, nofun⟩
  have class' : Spells ".é".toList [.hasClass ['é']] := .hasClass (by decide +kernel)
  have inner : parse "*||.é".toList = .ok (.all [.universal (some []), .hasClass ['é']]) :=
    (bars.spells_universal.append class' (by decide)).parse_eq (List.cons_ne_nil _ _)
  have front : Spells "p".toList [.tag ['p']] := .tag (by decide +kernel)
  have closed : Parenthesized "*||.é".toList := by decide +kernel
  have whole : parse "p:has(*||.é)".toList =
      .ok (.all [.tag ['p'], .has (.all [.universal (some []), .hasClass ['é']])]) := by
    refine (parse_around .has closed.balanced front).trans ?_
    rw [inner]
    rfl
  have within : (Condition.universal (some [])).Within
      (.all [.tag ['p'], .has (.all [.universal (some []), .hasClass ['é']])]) :=
    .all (.tail _ (.head _)) (.has (.all (.head _) .self))
  exact ⟨whole, ((names_empty_iff_bars whole).2 _).1 ⟨within, .head _⟩⟩

/-- A bar by itself is read as a tag, of which nothing is left. -/
theorem bar_unnamed :
    ¬ ∀ (s : Text) (condition part : Condition), parse s = .ok condition →
      part.Within condition → [] ∉ part.names := by
  intro named
  have bar : Bars ['|'] [] := ⟨by decide, by simp, nofun⟩
  exact named _ _ (.tag []) (bar.spells_tag.parse_eq (List.cons_ne_nil _ _)) .self (.head _)

end TreeQuery.Selector
