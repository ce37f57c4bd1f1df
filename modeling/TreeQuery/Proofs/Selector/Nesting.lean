import TreeQuery.Pattern.Basic
import TreeQuery.Proofs.Selector.Concatenation

/-!
# Nested selectors

A selector that stands in round brackets after `:has` or `:not` is compiled on its own.  What comes
out becomes one more part of the compound around it, and what is wrong with it is reported as far to
the right as the nested selector stands.  Main statement: `parse_enclosed`.
-/

namespace TreeQuery.Selector

/-! ### Layers -/

/-- The pseudo-classes whose argument is a selector. -/
inductive Nesting where
  | has
  | not
deriving DecidableEq, Repr

namespace Nesting

/-- The name of the pseudo-class. -/
def name : Nesting → Text
  | has => "has".toList
  | not => "not".toList

/-- What is written in front of the argument. -/
def opening (nesting : Nesting) : Text := ':' :: nesting.name ++ ['(']

/-- The pseudo-class with its argument after other parts of a compound. -/
def around (nesting : Nesting) (front inner : Text) : Text :=
  front ++ nesting.opening ++ inner ++ [')']

variable {nesting : Nesting}

/-- The pseudo-classes are named. -/
lemma name_ne_nil : nesting.name ≠ [] := by
  cases nesting <;> decide

/-- Their names hold characters of names only. -/
lemma all_name : ∀ c ∈ nesting.name, isNameChar c := by
  apply List.all_eq_true.1
  cases nesting <;> decide

/-- Up to the bracket there are characters of a compound. -/
lemma plain_name : ∀ c ∈ ':' :: nesting.name, Text.isBlank c = false ∧ c ∉ ",>+~([".toList := by
  have all : (':' :: nesting.name).all fun c => !Text.isBlank c && !",>+~([".toList.contains c := by
    cases nesting <;> decide
  simpa using List.all_eq_true.1 all

/-- Their names are in small letters. -/
lemma lower_name : Text.lower nesting.name = nesting.name := by
  cases nesting <;> rfl

end Nesting

/-- What is read in front of a text between round brackets. -/
def parentheses (inner : Text) : Except Error Text × Cursor :=
  (Cursor.start 0 ('(' :: inner ++ [')'])).region .round

/-- A text that reads as one region if it is put between round brackets. -/
def Parenthesized (inner : Text) : Prop :=
  (parentheses inner).1 = .ok inner ∧ (parentheses inner).2.rest = []

instance (inner : Text) : Decidable (Parenthesized inner) :=
  inferInstanceAs (Decidable (_ ∧ _))

/-- What reads as one region is balanced. -/
lemma Parenthesized.balanced {inner : Text} (h : Parenthesized inner) : Balanced .round inner := by
  have region : (Cursor.start 0 ('(' :: inner ++ [')'])).region .round =
      (.ok inner, (parentheses inner).2) := Prod.ext h.1 rfl
  exact Cursor.balanced_of_region Brackets.distinct_round region

/-- A nesting pseudo-class is made as compounds are. -/
lemma compoundText_nesting {nesting : Nesting} {inner : Text} (balanced : Balanced .round inner) :
    CompoundText (nesting.opening ++ inner ++ [')']) := by
  have argument : CompoundText ('(' :: inner ++ [')']) := .of_balanced (.inl rfl) balanced
  have whole := (CompoundText.of_chars (@Nesting.plain_name nesting)).append argument
  simpa [Nesting.opening] using whole

/-- Where the name of a nesting pseudo-class ends, its argument is read. -/
lemma exists_argument {nesting : Nesting} {cursor : Cursor} {inner later : Text}
    (balanced : Balanced .round inner)
    (rest : cursor.rest = nesting.opening ++ inner ++ ')' :: later) :
    ∃ t argument last, cursor.rest = ':' :: (nesting.name ++ t) ∧
      (cursor.past [':'] (nesting.name ++ t)).name = (nesting.name, argument) ∧
      argument.offset + 1 = cursor.offset + Text.byteLength nesting.opening ∧
      argument.region .round = (.ok inner, last) ∧ last.rest = later := by
  have run : Grammar.Run isNameChar nesting.name ('(' :: inner ++ ')' :: later) := by
    refine ⟨Nesting.all_name, fun c first => ?_⟩
    cases first
    decide
  refine ⟨'(' :: inner ++ ')' :: later, _, _, by simp [rest, Nesting.opening],
    Cursor.takeWhile_of_run run rfl, ?_,
    Cursor.region_of_balanced Brackets.distinct_round balanced rfl, rfl⟩
  cases nesting <;> rfl

section

variable [PatternEngine]

namespace Nesting

/-- What the pseudo-class means, given what its argument means. -/
def condition : Nesting → Condition → Condition
  | has => .has
  | not => .not

/-- A nesting pseudo-class is compiled as its argument is. -/
lemma compile_of_name {nesting : Nesting} {nested : Nested} {name inner : Text}
    (named : Text.lower name = nesting.name) (colon start : Nat) :
    PseudoClass.compile nested name colon (some (inner, start)) =
      (nested inner start).map nesting.condition := by
  unfold PseudoClass.compile PseudoClass.ofName?
  rw [named]
  cases nesting <;> rfl

end Nesting

section

variable {nesting : Nesting} {nested : Nested} {cursor : Cursor} {front inner later : Text}

/-- A nesting pseudo-class is read as its argument means, if that means anything. -/
lemma exists_simple_nesting (nested : Nested) (balanced : Balanced .round inner)
    (rest : cursor.rest = nesting.opening ++ inner ++ ')' :: later) :
    ∃ t last, cursor.rest = ':' :: t ∧ last.rest = later ∧
      Compound.simple nested cursor ':' t =
        (nested inner (cursor.offset + Text.byteLength nesting.opening)).map
          fun condition => (nesting.condition condition, last) := by
  obtain ⟨t, argument, last, first, named, offset_eq, region, ended⟩ :=
    exists_argument balanced rest
  obtain ⟨_, _, opens, -⟩ := Cursor.region_eq_ok_iff.1 region
  have opens : argument.peek = some '(' := congrArg List.head? opens
  refine ⟨nesting.name ++ t, last, first, ended, ?_⟩
  change Compound.pseudoClass nested cursor.offset _ = _
  unfold Compound.pseudoClass
  dsimp only
  rw [named]
  dsimp only
  rw [if_neg (mt List.isEmpty_iff.1 Nesting.name_ne_nil), if_pos opens, region]
  dsimp only
  rw [Nesting.compile_of_name Nesting.lower_name, offset_eq]
  cases nested inner (cursor.offset + Text.byteLength nesting.opening) <;> rfl

/-- A nesting pseudo-class that ends a text is all that is read from it. -/
lemma simples_nesting (balanced : Balanced .round inner)
    (rest : cursor.rest = nesting.opening ++ inner ++ [')']) :
    Compound.simples nested cursor =
      (nested inner (cursor.offset + Text.byteLength nesting.opening)).map
        fun condition => [nesting.condition condition] := by
  obtain ⟨t, last, first, ended, read⟩ := exists_simple_nesting nested balanced rest
  rw [Compound.simples_eq, first]
  dsimp only
  rw [read]
  cases nested inner (cursor.offset + Text.byteLength nesting.opening) with
  | error e => rfl
  | ok condition =>
    dsimp only [Except.map]
    rw [Compound.simples_eq, ended]

/-- A nested selector is compiled on its own and becomes one more part of the compound around it. -/
lemma parse_around (nesting : Nesting) (balanced : Balanced .round inner)
    {conditions : List Condition} (spells : Spells front conditions) :
    parse (nesting.around front inner) =
      ((parse inner).map fun condition =>
        Condition.allOf (conditions ++ [nesting.condition condition])).mapError
          (.shift (Text.byteLength (front ++ nesting.opening))) := by
  generalize v_eq : nesting.opening ++ inner ++ [')'] = v
  have text_eq : nesting.around front inner = front ++ v := by
    simp [← v_eq, Nesting.around]
  have marked : Marked v := by
    rw [← v_eq]
    intro c first
    cases first
    decide
  have tokens : (Cursor.start 0 (front ++ v)).tokens.1 = .ok [.compound (front ++ v) 0] := by
    refine Cursor.tokens_eq_compound_iff.2 ⟨?_, by simp [← v_eq]⟩
    exact spells.compound.append (v_eq ▸ compoundText_nesting balanced)
  have argument : Compound.simples parseAt (.start 0 v) =
      (parseAt inner (Text.byteLength nesting.opening + 0)).map
        fun condition => [nesting.condition condition] := by
    rw [simples_nesting balanced (v_eq.symm : (Cursor.start 0 v).rest = _), Nat.add_comm]
    rfl
  rw [text_eq, parse_of_tokens tokens]
  unfold Compound.read
  rw [Compound.simples_append spells.simples marked.detached, argument, parseAt_shift]
  unfold parse
  cases parseAt inner 0 <;> simp [Except.map, Except.mapError]

end

/-- Layers of nesting pseudo-classes around an inner selector.  Each stands alone or ends a
compound. They move the inner selector to the right by some bytes, and make something of what it
means. -/
inductive Enclosed (inner : Text) : Text → Nat → (Condition → Condition) → Prop where
  | here : Enclosed inner inner 0 id
  | alone {text : Text} {offset : Nat} {meaning : Condition → Condition} (nesting : Nesting) :
    Enclosed inner text offset meaning → Parenthesized text →
    Enclosed inner (nesting.around [] text) (Text.byteLength nesting.opening + offset)
      fun condition => nesting.condition (meaning condition)
  | after {text front : Text} {offset : Nat} {meaning : Condition → Condition}
      {compound : Condition} (nesting : Nesting) :
    Enclosed inner text offset meaning → Parenthesized text →
    (Cursor.start 0 front).tokens.1 = .ok [.compound front 0] → parse front = .ok compound →
    Enclosed inner (nesting.around front text)
      (Text.byteLength (front ++ nesting.opening) + offset)
      fun condition => .all (compound.leaves ++ [nesting.condition (meaning condition)])

/-- A selector in layers of nesting pseudo-classes is compiled as it is on its own.  If it is well
formed, the layers add to its meaning, and nothing else; if it is not, its error is that of the
whole, as far to the right as the layers reach. -/
theorem parse_enclosed {inner text : Text} {offset : Nat} {meaning : Condition → Condition}
    (h : Enclosed inner text offset meaning) :
    parse text = ((parse inner).map meaning).mapError (.shift offset) := by
  induction h with
  | here => cases parse inner <;> simp [Except.map, Except.mapError]
  | @alone text offset meaning nesting _ closed ih =>
    rw [parse_around nesting closed.balanced .nil, ih]
    cases parse inner <;> simp [Except.map, Except.mapError, Condition.allOf]
  | @after text front offset meaning compound nesting _ closed tokens parsed ih =>
    have spells := Spells.of_parse tokens parsed
    have parts := mt spells.eq_nil_iff.2 (Cursor.compoundText_of_tokens tokens).2
    rw [parse_around nesting closed.balanced spells, ih]
    cases parse inner <;>
      simp [Except.map, Except.mapError, Condition.allOf_append parts (List.cons_ne_nil _ _)]

end

attribute [local instance] Pattern.engine

/-- An unknown name two layers deep, behind characters of more than one byte. -/
theorem parse_enclosed_unknown :
    ∃ meaning, Enclosed "é ~ :frob".toList "ol[ä]:not(:has(é ~ :frob))".toList 16 meaning ∧
      parse "é ~ :frob".toList = .error ⟨.unknownPseudoClass "frob".toList, 5⟩ ∧
      parse "ol[ä]:not(:has(é ~ :frob))".toList =
        .error ⟨.unknownPseudoClass "frob".toList, 21⟩ := by
  obtain ⟨compound, parsed⟩ := isOk_iff.1 (show (parse "ol[ä]".toList).isOk by decide +kernel)
  have layers : Enclosed "é ~ :frob".toList "ol[ä]:not(:has(é ~ :frob))".toList 16 _ :=
    .after .not (.alone .has .here (by decide +kernel)) (by decide +kernel) (by decide +kernel)
      parsed
  have refused : (parse "é ~ :frob".toList).map (fun _ => ()) =
      .error ⟨.unknownPseudoClass "frob".toList, 5⟩ := by decide +kernel
  have inner : parse "é ~ :frob".toList = .error ⟨.unknownPseudoClass "frob".toList, 5⟩ := by
    cases read : parse "é ~ :frob".toList <;> rw [read] at refused <;> cases refused
    rfl
  refine ⟨_, layers, inner, (parse_enclosed layers).trans ?_⟩
  rw [inner]
  rfl

end TreeQuery.Selector
