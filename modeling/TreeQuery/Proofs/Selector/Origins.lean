import TreeQuery.Proofs.Selector.NormalForm
import TreeQuery.Proofs.Selector.Rereading

/-!
# Where tests come from

Commas and combinators put conditions together, and pseudo-classes put a condition around another
one; nothing that has been compiled is taken away again.  So a test stands in what a selector
compiles to exactly if reading the selector, or one that it nests at some depth, comes to a simple
selector that compiles to the test.  Main statement: `within_iff_read`.
-/

namespace TreeQuery.Selector
open Relation (ReflTransGen)

variable [PatternEngine] {part condition left right : Condition} {conditions : List Condition}
  {nested : Nested}

/-! ### Parts of conditions -/

namespace Condition

/-- Whether no other condition stands in the condition. -/
def isLeaf : Condition → Bool
  | has _ | not _ | all _ | any _ | related .. => false
  | _ => true

/-- No condition stands in a test without an argument. -/
lemma isLeaf_of_isPlain (h : condition.isPlain) : condition.isLeaf := by
  cases condition <;> first | rfl | cases h

/-- What stands in a leaf is the leaf. -/
lemma Within.eq_of_isLeaf (h : part.Within condition) (leaf : condition.isLeaf) :
    part = condition := by
  cases h with
  | self => rfl
  | has | not | all | any | related => cases leaf

/-- A simple test that stands in a conjunction stands in one of its parts. -/
lemma within_all_iff (simple : part.isSimple) :
    part.Within (.all conditions) ↔ ∃ c ∈ conditions, part.Within c := by
  constructor
  · intro h
    cases h with
    | self => cases simple
    | all member within => exact ⟨_, member, within⟩
  · rintro ⟨c, member, within⟩
    exact .all member within

/-- A simple test that stands in a disjunction stands in one of its parts. -/
lemma within_any_iff (simple : part.isSimple) :
    part.Within (.any conditions) ↔ ∃ c ∈ conditions, part.Within c := by
  constructor
  · intro h
    cases h with
    | self => cases simple
    | any member within => exact ⟨_, member, within⟩
  · rintro ⟨c, member, within⟩
    exact .any member within

/-- A simple test that stands in a relation stands in what is related to. -/
lemma within_related_iff {combinator : Combinator} (simple : part.isSimple) :
    part.Within (.related combinator left) ↔ part.Within left := by
  constructor
  · intro h
    cases h with
    | self => cases simple
    | related within => exact within
  · exact .related

/-- A simple test that stands in a compound stands in one of its conditions. -/
lemma within_allOf_iff (simple : part.isSimple) :
    part.Within (allOf conditions) ↔ ∃ c ∈ conditions, part.Within c := by
  match conditions with
  | [_] => simp [allOf]
  | [] | _ :: _ :: _ => exact within_all_iff simple

/-- A simple test that stands in a selector stands in one of its alternatives. -/
lemma within_anyOf_iff (simple : part.isSimple) :
    part.Within (anyOf conditions) ↔ ∃ c ∈ conditions, part.Within c := by
  match conditions with
  | [_] => simp [anyOf]
  | [] | _ :: _ :: _ => exact within_any_iff simple

/-- A simple test that stands in a combination stands on one of its sides. -/
lemma within_combine_iff {combinator : Combinator} (simple : part.isSimple) :
    part.Within (left.combine combinator right) ↔ part.Within left ∨ part.Within right := by
  rw [combine, within_all_iff simple]
  simp [within_related_iff simple, or_comm]

/-- What stands in a nested condition is itself or stands in its argument. -/
lemma within_nesting_iff {nesting : Nesting} :
    part.Within (nesting.condition condition) ↔
      part = nesting.condition condition ∨ part.Within condition := by
  constructor
  · intro h
    cases nesting with
    | has =>
      cases h with
      | self => exact .inl rfl
      | has within => exact .inr within
    | not =>
      cases h with
      | self => exact .inl rfl
      | not within => exact .inr within
  · rintro (rfl | within)
    · exact .self
    · cases nesting with
      | has => exact .has within
      | not => exact .not within

end Condition

/-! ### Simple selectors -/

/-- A pseudo-class with an argument compiles to a leaf, or to what its argument compiles to and a
condition around it. -/
lemma PseudoClass.isLeaf_or_nesting {name : Text} {colon : Nat} {argument : Option (Text × Nat)}
    (h : compile nested name colon argument = .ok condition) :
    condition.isLeaf ∨ ∃ (nesting : Nesting) (text : Text) (start : Nat) (inner : Condition),
      Text.lower name = nesting.name ∧ argument = some (text, start) ∧
        nested text start = .ok inner ∧ condition = nesting.condition inner := by
  rcases compile_eq_ok_iff.1 h with ⟨known, -⟩ | ⟨parameter, text, start, known, rfl, read⟩
  · exact .inl (Condition.isLeaf_of_isPlain (isPlain_of_ofName? known))
  · have nests (nesting : Nesting) (named : Text.lower name = nesting.name) :
        ∃ inner, nested text start = .ok inner ∧ condition = nesting.condition inner := by
      rw [nesting.compile_of_name named] at h
      obtain ⟨inner, read, e⟩ := map_eq_ok_iff.1 h
      exact ⟨inner, read, e.symm⟩
    cases parameter with
    | has | not =>
      rcases List.mem_pair.1 (mem_names known) with named | named
      · obtain ⟨inner, read, e⟩ := nests .has named
        exact .inr ⟨.has, text, start, inner, named, rfl, read, e⟩
      · obtain ⟨inner, read, e⟩ := nests .not named
        exact .inr ⟨.not, text, start, inner, named, rfl, read, e⟩
    | _ =>
      obtain ⟨a, -, rfl⟩ := Parameter.explain_map_eq_ok_iff.1 read
      exact .inl rfl

namespace Compound

variable {cursor middle after : Cursor} {inner : Query} {argument : Condition}

/-- A simple selector compiles to a leaf, or it nests a selector and puts a condition around it. -/
lemma ReadsSimple.isLeaf_or_nests (h : ReadsSimple nested cursor condition after) :
    condition.isLeaf ∨ ∃ (nesting : Nesting) (inner : Query) (argument : Condition),
      cursor.Nests inner ∧ nested inner.text inner.base = .ok argument ∧
        condition = nesting.condition argument := by
  cases h with
  | id | hasClass | universal | universalTag | tag => exact .inl rfl
  | attributeTest _ _ read => cases AttributeTest.read_eq_ok_iff.1 read <;> exact .inl rfl
  | plain _ _ _ _ compiled =>
    rcases PseudoClass.isLeaf_or_nesting compiled with leaf | ⟨_, _, _, _, _, ⟨⟩, _⟩
    exact .inl leaf
  | call first read _ region compiled =>
    rcases PseudoClass.isLeaf_or_nesting compiled with
      leaf | ⟨nesting, _, _, argument, named, ⟨⟩, inside, e⟩
    · exact .inl leaf
    · exact .inr ⟨nesting, _, argument, .argument nesting first read named region, inside, e⟩

/-- A simple selector that nests another one compiles to a condition around it. -/
lemma ReadsSimple.eq_of_nests (h : ReadsSimple nested cursor condition after)
    (nests : cursor.Nests inner) (inside : nested inner.text inner.base = .ok argument) :
    ∃ nesting : Nesting, condition = nesting.condition argument := by
  cases nests with
  | @argument rest name text front last nesting first read named region =>
    have nonempty : name ≠ [] := by
      rintro rfl
      exact Nesting.name_ne_nil named.symm
    have compiled : PseudoClass.compile nested name cursor.offset (some (text, front.offset + 1)) =
        .ok (nesting.condition argument) := by
      rw [nesting.compile_of_name named]
      exact map_eq_ok_iff.2 ⟨argument, inside, rfl⟩
    have here := (simple_eq_ok_iff first).2 (.call first read nonempty region compiled)
    cases here.symm.trans ((simple_eq_ok_iff first).2 h)
    exact ⟨nesting, rfl⟩

/-- What is read from a cursor that reading a compound comes to is the end of what is read. -/
lemma Reaches.simples_suffix (h : Reaches nested cursor middle)
    (read : simples nested cursor = .ok conditions) :
    ∃ later, simples nested middle = .ok later ∧ later <:+ conditions := by
  induction h using ReflTransGen.head_induction_on generalizing conditions with
  | refl => exact ⟨conditions, read, List.suffix_refl _⟩
  | head step _ ih =>
    obtain ⟨first, step⟩ := step
    rw [simples_of_readsSimple step] at read
    obtain ⟨more, behind, rfl⟩ := map_eq_ok_iff.1 read
    obtain ⟨later, there, suffix⟩ := ih behind
    exact ⟨later, there, suffix.trans (List.suffix_cons _ _)⟩

/-- Every condition of a compound is that of a simple selector that reading it comes to. -/
lemma exists_reaches_of_mem (read : simples nested cursor = .ok conditions)
    (member : condition ∈ conditions) :
    ∃ middle after, Reaches nested cursor middle ∧ ReadsSimple nested middle condition after := by
  induction conditions generalizing cursor with
  | nil => cases member
  | cons first conditions ih =>
    obtain ⟨next, here, later⟩ := exists_readsSimple_of_simples read
    rcases List.mem_cons.1 member with rfl | member
    · exact ⟨cursor, next, .refl, here⟩
    · obtain ⟨middle, after, reaches, there⟩ := ih later member
      exact ⟨middle, after, .head ⟨first, here⟩ reaches, there⟩

end Compound

/-! ### Alternatives -/

/-- The token is a compound, and the condition stands in what it compiles to. -/
inductive Token.Brings (nested : Nested) (part : Condition) : Token → Prop where
  | compound {text : Text} {offset : Nat} {condition : Condition} :
    Compound.read nested text offset = .ok condition → part.Within condition →
    Brings nested part (.compound text offset)

/-- The condition of the open alternative, as far as it has been read. -/
def Chain.condition? : Chain → Option Condition
  | start => none
  | complete condition | awaiting condition _ _ => some condition

namespace Progress

variable {query : Query} {progress progress' : Progress}

/-- The condition stands in what has been read. -/
def Holds (part : Condition) (progress : Progress) : Prop :=
  (∃ c ∈ progress.finished, part.Within c) ∨ ∃ c ∈ progress.chain.condition?, part.Within c

/-- A compound adds its tests, and no token takes one away. -/
lemma holds_step_iff {token : Token} (simple : part.isSimple) (other : part ≠ .scope)
    (h : progress.step nested query token = .ok progress') :
    progress'.Holds part ↔ progress.Holds part ∨ token.Brings nested part := by
  have rootless : ¬ part.Within .scope := fun within => other (within.eq_of_isLeaf rfl)
  match token with
  | .compound text offset =>
    obtain ⟨chain, next, rfl⟩ := map_eq_ok_iff.1 h
    obtain ⟨condition, read, before⟩ := Chain.compound_eq_ok_iff.1 next
    have brings : (Token.compound text offset).Brings nested part ↔ part.Within condition := by
      constructor
      · rintro ⟨read', within⟩
        cases read.symm.trans read'
        exact within
      · exact .compound read
    rw [brings, Holds, Holds]
    rcases before with ⟨start, rfl⟩ | ⟨left, k, o, waits, rfl⟩
    · simp [start, Chain.condition?]
    · simp [waits, Chain.condition?, Condition.within_combine_iff simple, or_assoc]
  | .separator (.combinator k) offset =>
    obtain ⟨chain, next, rfl⟩ := map_eq_ok_iff.1 h
    obtain ⟨left, before, rfl⟩ := Chain.combinator_eq_ok_iff.1 next
    rw [or_iff_left nofun, Holds, Holds]
    rcases before with ⟨start, rfl⟩ | complete
    · simp [start, Chain.condition?, rootless]
    · simp [complete, Chain.condition?]
  | .separator .comma offset =>
    obtain ⟨last, complete, rfl⟩ := step_comma_eq_ok_iff.1 h
    rw [or_iff_left nofun, Holds, Holds]
    simp [complete, Chain.condition?, or_and_right, exists_or]

/-- What stands in what has been read was there before or is brought by some token. -/
lemma holds_foldlM_iff {tokens : List Token} (simple : part.isSimple) (other : part ≠ .scope)
    (h : tokens.foldlM (Progress.step nested query) progress = .ok progress') :
    progress'.Holds part ↔ progress.Holds part ∨ ∃ token ∈ tokens, token.Brings nested part := by
  induction tokens generalizing progress with
  | nil =>
    cases h
    simp
  | cons token tokens ih =>
    obtain ⟨middle, step, later⟩ := foldlM_cons_eq_ok_iff.1 h
    rw [ih later, holds_step_iff simple other step, List.exists_mem_cons_iff, or_assoc]

end Progress

/-- Before anything is read no test stands there, and in the end all that were read do. -/
lemma Query.compile_within_iff {query : Query} {tokens : List Token}
    (simple : part.isSimple) (other : part ≠ .scope)
    (read : (Cursor.start query.base query.text).tokens.1 = .ok tokens)
    (h : query.compile nested = .ok condition) :
    part.Within condition ↔ ∃ token ∈ tokens, token.Brings nested part := by
  obtain ⟨tokens', progress, read', run, finished⟩ := Query.compile_eq_ok_iff.1 h
  cases read.symm.trans read'
  obtain ⟨last, complete, rfl⟩ := Progress.finish_eq_ok_iff.1 finished
  have nothing : ¬ Progress.start.Holds part := by
    simp [Progress.Holds, Progress.start, Chain.condition?]
  have whole : part.Within (.anyOf (progress.finished ++ [last])) ↔ progress.Holds part := by
    rw [Condition.within_anyOf_iff simple, Progress.Holds, complete]
    simp [Chain.condition?, or_and_right, exists_or]
  rw [whole, Progress.holds_foldlM_iff simple other run, or_iff_right nothing]

/-! ### Selectors -/

/-- Reading the selector comes to the cursor, where a simple selector starts or a compound ends. -/
inductive Query.ComesTo (query : Query) (cursor : Cursor) : Prop where
  | compound {before later : List Token} {text : Text} {offset : Nat} {progress : Progress} :
    (Cursor.start query.base query.text).tokens.1 = .ok (before ++ .compound text offset :: later) →
    before.foldlM (Progress.step parseAt query) .start = .ok progress →
    Compound.Reaches parseAt (.start offset text) cursor → ComesTo query cursor

namespace Query

variable {query inner : Query} {cursor : Cursor}

/-- What a selector reaches is nested in a place that reading it comes to. -/
lemma Reaches.exists_comesTo (h : query.Reaches inner) :
    ∃ cursor, query.ComesTo cursor ∧ cursor.Nests inner := by
  cases h with
  | argument read run reaches nests => exact ⟨_, .compound read run reaches, nests⟩

/-- In a selector that is well formed, the simple selectors can be read wherever reading it comes
to, and the tests in them stand in what it compiles to. -/
lemma ComesTo.exists_simples (here : query.ComesTo cursor)
    (h : parseAt query.text query.base = .ok condition) :
    ∃ later, Compound.simples parseAt cursor = .ok later ∧ ∀ c ∈ later, ∀ part : Condition,
      part.isSimple → part ≠ .scope → part.Within c → part.Within condition := by
  obtain ⟨read, _, reaches⟩ := here
  rw [parseAt_eq_compile] at h
  obtain ⟨tokens, progress, read', run, -⟩ := Query.compile_eq_ok_iff.1 h
  cases read.symm.trans read'
  obtain ⟨middle, -, behind⟩ := foldlM_append_eq_ok_iff.1 run
  obtain ⟨next, step, -⟩ := foldlM_cons_eq_ok_iff.1 behind
  obtain ⟨chain, compound, -⟩ := map_eq_ok_iff.1 step
  obtain ⟨whole, compiled, -⟩ := Chain.compound_eq_ok_iff.1 compound
  obtain ⟨conditions, simples, rfl⟩ := Compound.read_eq_ok_iff.1 compiled
  obtain ⟨later, there, suffix⟩ := reaches.simples_suffix simples
  refine ⟨later, there, fun c member part simple other within => ?_⟩
  refine (Query.compile_within_iff simple other read h).2
    ⟨_, List.mem_append_right _ (.head _), .compound compiled ?_⟩
  exact (Condition.within_allOf_iff simple).2 ⟨c, suffix.subset member, within⟩

/-- A test stands in what a selector compiles to if a simple selector compiles to it, or if it
stands in what a nested selector compiles to. -/
lemma parseAt_within_iff (simple : part.isSimple) (other : part ≠ .scope)
    (h : parseAt query.text query.base = .ok condition) :
    part.Within condition ↔
      (∃ cursor after, query.ComesTo cursor ∧ Compound.ReadsSimple parseAt cursor part after) ∨
      ∃ inner argument, query.Reaches inner ∧ parseAt inner.text inner.base = .ok argument ∧
        part.Within argument := by
  constructor
  · intro within
    rw [parseAt_eq_compile] at h
    obtain ⟨tokens, progress, read, run, -⟩ := Query.compile_eq_ok_iff.1 h
    obtain ⟨token, member, compiled, within⟩ :=
      (Query.compile_within_iff simple other read h).1 within
    obtain ⟨before, later, rfl⟩ := List.append_of_mem member
    obtain ⟨middle, front, -⟩ := foldlM_append_eq_ok_iff.1 run
    obtain ⟨conditions, simples, rfl⟩ := Compound.read_eq_ok_iff.1 compiled
    obtain ⟨c, member, within⟩ := (Condition.within_allOf_iff simple).1 within
    obtain ⟨cursor, after, reaches, reads⟩ := Compound.exists_reaches_of_mem simples member
    have here : query.ComesTo cursor := .compound read front reaches
    rcases reads.isLeaf_or_nests with leaf | ⟨nesting, inner, argument, nests, inside, rfl⟩
    · cases within.eq_of_isLeaf leaf
      exact .inl ⟨cursor, after, here, reads⟩
    · rcases Condition.within_nesting_iff.1 within with rfl | within
      · exact .inl ⟨cursor, after, here, reads⟩
      · exact .inr ⟨inner, argument, .argument read front reaches nests, inside, within⟩
  · rintro (⟨cursor, after, here, reads⟩ | ⟨inner, argument, reaches, inside, within⟩)
    · obtain ⟨later, there, all⟩ := here.exists_simples h
      rw [Compound.simples_of_readsSimple reads] at there
      obtain ⟨more, -, rfl⟩ := map_eq_ok_iff.1 there
      exact all part (.head _) part simple other .self
    · obtain ⟨cursor, here, nests⟩ := reaches.exists_comesTo
      obtain ⟨later, there, all⟩ := here.exists_simples h
      cases later with
      | nil =>
        cases nests with
        | argument _ first => cases first.symm.trans (Compound.simples_eq_nil_iff.1 there)
      | cons c later =>
        obtain ⟨after, reads, -⟩ := Compound.exists_readsSimple_of_simples there
        obtain ⟨nesting, rfl⟩ := reads.eq_of_nests nests inside
        exact all _ (.head _) part simple other (Condition.within_nesting_iff.2 (.inr within))

/-- A selector that is nested in a well-formed one is well formed. -/
lemma Reaches.exists_parseAt (reaches : query.Reaches inner)
    (h : parseAt query.text query.base = .ok condition) :
    ∃ argument, parseAt inner.text inner.base = .ok argument := by
  cases read : parseAt inner.text inner.base with
  | ok argument => exact ⟨argument, rfl⟩
  | error e => cases (reaches.parseAt_eq read).symm.trans h

end Query

/-- The tests in what a selector compiles to are those that its simple selectors compile to, and the
simple selectors of the selectors nested in it at any depth. -/
theorem within_iff_read (query : Query) (simple : part.isSimple) (other : part ≠ .scope)
    (h : parseAt query.text query.base = .ok condition) :
    part.Within condition ↔ ∃ inner cursor after, ReflTransGen Query.Reaches query inner ∧
      inner.ComesTo cursor ∧ Compound.ReadsSimple parseAt cursor part after := by
  constructor
  · intro within
    induction size : query.text.length using Nat.strongRecOn generalizing query condition with
    | ind n ih =>
      rcases (Query.parseAt_within_iff simple other h).1 within with
        ⟨cursor, after, here, reads⟩ | ⟨middle, argument, reaches, inside, within⟩
      · exact ⟨query, cursor, after, .refl, here, reads⟩
      · obtain ⟨inner, cursor, after, deeper, there, reads⟩ :=
          ih _ (size ▸ reaches.length_lt) middle inside within rfl
        exact ⟨inner, cursor, after, .head reaches deeper, there, reads⟩
  · rintro ⟨inner, cursor, after, reaches, there, reads⟩
    induction reaches using ReflTransGen.head_induction_on generalizing condition with
    | refl => exact (Query.parseAt_within_iff simple other h).2 (.inl ⟨cursor, after, there, reads⟩)
    | head step _ ih =>
      obtain ⟨argument, inside⟩ := step.exists_parseAt h
      refine (Query.parseAt_within_iff simple other h).2 (.inr ⟨_, argument, step, inside, ?_⟩)
      exact ih inside

end TreeQuery.Selector
