import TreeQuery.Pattern.Basic
import TreeQuery.Proofs.Selector.Acceptance
import TreeQuery.Proofs.Selector.Shape

/-!
# Normal form

Conditions that selectors compile to have one of few shapes: alternatives over combinators over
compounds over simple tests, and the names, values and numbers in these tests are as the matcher
expects them.  Main statement: `normalForm_of_parse`.
-/

namespace TreeQuery.Selector

/-! ### Names, values and numbers -/

/-- A non-empty run of characters that may stand in a name. -/
structure IsName (t : Text) : Prop where
  nonempty : t ≠ []
  chars : ∀ c ∈ t, isNameChar c

/-- A tag in small letters, where no bar is left. -/
structure IsTag (t : Text) : Prop where
  small : Text.Small t
  bar : '|' ∉ t

/-- The name or the value of an attribute as tests hold it: in small letters, and neither empty nor
with white space at an end. -/
structure IsKey (t : Text) : Prop where
  small : Text.Small t
  nonempty : t ≠ []
  trimmed : Text.Trimmed t

/-- What is looked for in a text, or at the start of a name: some text in small letters. -/
structure IsSearchText (t : Text) : Prop where
  small : Text.Small t
  nonempty : t ≠ []

/-- Both coefficients can be negated in 32 bits. -/
structure Nth.Negatable (formula : Nth) : Prop where
  step : formula.step ≠ Int32.minValue
  start : formula.start ≠ Int32.minValue

/-- A text in small letters can be looked for unless it is empty. -/
lemma isSearchText_lower {t : Text} (nonempty : t ≠ []) : IsSearchText (Text.lower t) :=
  ⟨Text.small_lower t, mt Text.lower_eq_nil_iff.1 nonempty⟩

/-- A trimmed text is a key in small letters. -/
lemma isKey_lower_trim {t : Text} (nonempty : Text.trim t ≠ []) :
    IsKey (Text.lower (Text.trim t)) where
  small := Text.small_lower _
  nonempty := mt Text.lower_eq_nil_iff.1 nonempty
  trimmed := (Text.trimmed_trim t).lower

/-- Bars are written as colons in tags. -/
lemma isTag_normalizeTag (written : Text) : IsTag (normalizeTag written) where
  small := Text.small_lower _
  bar member := by
    obtain ⟨c, member, small⟩ := List.mem_map.1 member
    cases (Text.toLower_eq_iff rfl).1 small
    obtain ⟨d, -, same⟩ := List.mem_map.1 member
    split at same
    · cases same
    · rename_i other
      exact other (beq_iff_eq.2 same)

/-- A value is read where there is one. -/
lemma Parameter.orElse_eq_ok_iff {α : Type} {value : Option α} {reason : Reason} {a : α} :
    read.orElse value reason = .ok a ↔ value = some a := by
  cases value <;> simp [read.orElse]

/-- What is read to be looked for is some text in small letters. -/
lemma Parameter.isSearchText_of_searchText {argument text : Text}
    (h : searchText argument = .ok text) : IsSearchText text := by
  unfold searchText at h
  split at h <;> cases h
  rename_i nonempty
  exact isSearchText_lower nonempty

/-- What is read as a name is one unless it is empty. -/
lemma Compound.isName_of_read {cursor after : Cursor} {name : Text}
    (h : cursor.name = (name, after)) (nonempty : name ≠ []) : IsName name := by
  cases h
  exact ⟨nonempty, fun _ => List.mem_takeWhile_imp⟩

/-! ### Positions -/

namespace Nth

/-- Sizes that are read are no larger than their negatives can be. -/
lemma magnitude?_ne_minValue {digits : Text} {n : Int32} (h : magnitude? digits = some n) :
    n ≠ Int32.minValue ∧ -n ≠ Int32.minValue := by
  have nonnegative : 0 ≤ n.toInt := by
    obtain ⟨size, -, bounded⟩ := Option.bind_eq_some_iff.1 h
    split at bounded <;> cases bounded
    rw [Int32.toInt_ofNat_of_lt (by omega)]
    exact Int.natCast_nonneg size
  have positive : n ≠ Int32.minValue := by
    rintro rfl
    exact absurd nonnegative (by decide)
  exact ⟨positive, fun e => positive (Int32.neg_inj.1 e)⟩

/-- A number that is read can be negated. -/
lemma signed?_ne_minValue {needed : Bool} {t : Text} {v : Int32}
    (h : signed? needed t = some v) : v ≠ Int32.minValue := by
  unfold signed? at h
  split at h
  · exact (magnitude?_ne_minValue h).1
  · obtain ⟨n, size, rfl⟩ := Option.map_eq_some_iff.1 h
    exact (magnitude?_ne_minValue size).2
  · split at h
    · cases h
    · exact (magnitude?_ne_minValue h).1

/-- What is read in front of the letter can be negated. -/
lemma factor?_ne_minValue {t : Text} {v : Int32} (h : factor? t = some v) :
    v ≠ Int32.minValue := by
  unfold factor? at h
  split at h
  · cases h
    decide
  · cases h
    decide
  · cases h
    decide
  · exact signed?_ne_minValue h

/-- What is read behind the letter can be negated. -/
lemma summand?_ne_minValue {t : Text} {v : Int32} (h : summand? t = some v) :
    v ≠ Int32.minValue := by
  unfold summand? at h
  split at h
  · cases h
    decide
  · exact signed?_ne_minValue h

/-- The coefficients of a formula that is read can be negated. -/
lemma negatable_of_read? {t : Text} {formula : Nth} (h : read? t = some formula) :
    formula.Negatable := by
  unfold read? at h
  dsimp only at h
  split at h
  · cases h
    exact ⟨by decide, by decide⟩
  · split at h
    · cases h
      exact ⟨by decide, by decide⟩
    · split at h
      · obtain ⟨start, read, rfl⟩ := Option.map_eq_some_iff.1 h
        exact ⟨show (0 : Int32) ≠ Int32.minValue by decide, signed?_ne_minValue read⟩
      · obtain ⟨step, factor, later⟩ := Option.bind_eq_some_iff.1 h
        obtain ⟨start, summand, e⟩ := Option.bind_eq_some_iff.1 later
        cases e
        exact ⟨factor?_ne_minValue factor, summand?_ne_minValue summand⟩

end Nth

section

variable [PatternEngine]

/-! ### Shapes -/

mutual

/-- What a simple selector compiles to. -/
inductive SimpleForm : Condition → Prop where
  | universal : SimpleForm (.universal none)
  | universalTag {name : Text} : IsTag name → SimpleForm (.universal (some name))
  | tag {name : Text} : IsTag name → SimpleForm (.tag name)
  | id {value : Text} : IsName value → SimpleForm (.id value)
  | hasClass {name : Text} : IsName name → SimpleForm (.hasClass name)
  | hasAttribute {name : Text} : IsKey name → SimpleForm (.hasAttribute name)
  | attributeStarting {start : Text} : IsSearchText start → SimpleForm (.attributeStarting start)
  | attributeValue {name value : Text} {comparison : Comparison} :
    IsKey name → IsKey value → SimpleForm (.attributeValue name comparison value)
  | attributeMatches {name : Text} {pattern : PatternEngine.Compiled} :
    IsKey name → SimpleForm (.attributeMatches name pattern)
  | index {order : Ordering} {bound : Int32} : SimpleForm (.index order bound)
  | nth {counting : Counting} {formula : Nth} :
    formula.Negatable → SimpleForm (.nth counting formula)
  | placed {placement : Placement} : SimpleForm (.placed placement)
  | empty : SimpleForm .empty
  | root : SimpleForm .root
  | contains {part : TextPart} {text : Text} : IsSearchText text → SimpleForm (.contains part text)
  | containsData {text : Text} : IsSearchText text → SimpleForm (.containsData text)
  | matchesPattern {part : TextPart} {pattern : PatternEngine.Compiled} :
    SimpleForm (.matchesPattern part pattern)
  | has {inner : Condition} : NormalForm inner → SimpleForm (.has inner)
  | not {inner : Condition} : NormalForm inner → SimpleForm (.not inner)

/-- What a compound compiles to: a simple test, or two or more of them. -/
inductive CompoundForm : Condition → Prop where
  | simple {condition : Condition} : SimpleForm condition → CompoundForm condition
  | all {conditions : List Condition} :
    2 ≤ conditions.length → (∀ c ∈ conditions, SimpleForm c) → CompoundForm (.all conditions)

/-- What an alternative compiles to: a compound, or one that stands to the root of the search or to
an alternative as a combinator says. -/
inductive AlternativeForm : Condition → Prop where
  | compound {condition : Condition} : CompoundForm condition → AlternativeForm condition
  | fromRoot {right : Condition} {combinator : Combinator} :
    CompoundForm right → AlternativeForm (.all [right, .related combinator .scope])
  | combined {left right : Condition} {combinator : Combinator} :
    CompoundForm right → AlternativeForm left →
    AlternativeForm (.all [right, .related combinator left])

/-- What a selector compiles to: an alternative, or two or more of them. -/
inductive NormalForm : Condition → Prop where
  | alternative {condition : Condition} : AlternativeForm condition → NormalForm condition
  | any {conditions : List Condition} :
    2 ≤ conditions.length → (∀ c ∈ conditions, AlternativeForm c) → NormalForm (.any conditions)

end

variable {conditions : List Condition}

/-- Tests that take no argument are simple. -/
lemma simpleForm_of_isPlain {condition : Condition} (h : condition.isPlain) :
    SimpleForm condition := by
  cases condition with
  | placed => exact .placed
  | empty => exact .empty
  | root => exact .root
  | _ => cases h

/-- One or more simple conditions are a compound. -/
lemma compoundForm_allOf (nonempty : conditions ≠ []) (simple : ∀ c ∈ conditions, SimpleForm c) :
    CompoundForm (.allOf conditions) := by
  match conditions with
  | [_] => exact .simple (simple _ (.head _))
  | _ :: _ :: _ => exact .all (by simp) simple

/-- One or more alternatives are a selector. -/
lemma normalForm_anyOf (nonempty : conditions ≠ [])
    (alternatives : ∀ c ∈ conditions, AlternativeForm c) : NormalForm (.anyOf conditions) := by
  match conditions with
  | [_] => exact .alternative (alternatives _ (.head _))
  | _ :: _ :: _ => exact .any (by simp) alternatives

/-! ### Simple selectors -/

/-- Attribute tests hold names and values in small letters, and trimmed. -/
lemma AttributeTest.Reads.simpleForm {inner : Text} {condition : Condition}
    (h : Reads inner condition) : SimpleForm condition := by
  cases h with
  | starting _ _ nonempty => exact .attributeStarting (isSearchText_lower nonempty)
  | name _ nonempty => exact .hasAttribute (isKey_lower_trim nonempty)
  | value _ _ named value given =>
    subst value
    exact .attributeValue (isKey_lower_trim named) (isKey_lower_trim given)
  | pattern _ _ named => exact .attributeMatches (isKey_lower_trim named)

variable {nested : Nested} {limit : Nat} {condition : Condition}

/-- A reader of inner selectors answers normal forms for texts of less than `limit` characters. -/
def NestedNormal (nested : Nested) (limit : Nat) : Prop :=
  ∀ inner offset condition, inner.length < limit → nested inner offset = .ok condition →
    NormalForm condition

namespace Parameter

variable {name argument : Text} {offset : Nat}

/-- What a parameter reads is a simple condition. -/
lemma simpleForm_of_read {parameter : Parameter} (nests : NestedNormal nested limit)
    (short : argument.length < limit)
    (h : parameter.read nested name argument offset = .ok condition) : SimpleForm condition := by
  cases parameter with
  | index =>
    obtain ⟨bound, -, rfl⟩ := explain_map_eq_ok_iff.1 h
    exact .index
  | nth =>
    obtain ⟨formula, read, rfl⟩ := explain_map_eq_ok_iff.1 h
    exact .nth (Nth.negatable_of_read? (orElse_eq_ok_iff.1 read))
  | contains =>
    obtain ⟨text, read, rfl⟩ := explain_map_eq_ok_iff.1 h
    exact .contains (isSearchText_of_searchText read)
  | containsData =>
    obtain ⟨text, read, rfl⟩ := explain_map_eq_ok_iff.1 h
    exact .containsData (isSearchText_of_searchText read)
  | matchesPattern =>
    obtain ⟨pattern, -, rfl⟩ := explain_map_eq_ok_iff.1 h
    exact .matchesPattern
  | has =>
    obtain ⟨inner, read, rfl⟩ := map_eq_ok_iff.1 h
    exact .has (nests argument offset inner short read)
  | not =>
    obtain ⟨inner, read, rfl⟩ := map_eq_ok_iff.1 h
    exact .not (nests argument offset inner short read)

end Parameter

namespace PseudoClass

/-- What a pseudo-class compiles to is a simple condition. -/
lemma simpleForm_of_compile {name : Text} {offset : Nat} {argument : Option (Text × Nat)}
    (nests : NestedNormal nested limit)
    (short : ∀ text start, argument = some (text, start) → text.length < limit)
    (h : compile nested name offset argument = .ok condition) : SimpleForm condition := by
  rcases compile_eq_ok_iff.1 h with ⟨known, -⟩ | ⟨parameter, text, start, -, given, read⟩
  · exact simpleForm_of_isPlain (isPlain_of_ofName? known)
  · exact Parameter.simpleForm_of_read nests (short text start given) read

end PseudoClass

namespace Compound

variable {cursor after : Cursor}

/-- What a simple selector reads as is a simple condition. -/
lemma ReadsSimple.simpleForm (nests : NestedNormal nested limit)
    (short : cursor.rest.length ≤ limit) (h : ReadsSimple nested cursor condition after) :
    SimpleForm condition := by
  cases h with
  | id _ read named => exact .id (isName_of_read read named)
  | hasClass _ read named => exact .hasClass (isName_of_read read named)
  | universal => exact .universal
  | universalTag => exact .universalTag (isTag_normalizeTag _)
  | attributeTest _ _ read => exact (AttributeTest.read_eq_ok_iff.1 read).simpleForm
  | plain _ _ _ _ compiled =>
    refine PseudoClass.simpleForm_of_compile nests ?_ compiled
    nofun
  | call first read _ region compiled =>
    refine PseudoClass.simpleForm_of_compile nests (fun text start e => ?_) compiled
    cases e
    exact Nat.lt_of_lt_of_le (argument_length_lt first read region) short
  | tag => exact .tag (isTag_normalizeTag _)

/-- What a compound is read as are simple conditions. -/
lemma simples_simpleForm (nests : NestedNormal nested limit)
    (short : cursor.rest.length ≤ limit) (h : simples nested cursor = .ok conditions) :
    ∀ c ∈ conditions, SimpleForm c := by
  induction conditions generalizing cursor with
  | nil => nofun
  | cons condition conditions ih =>
    obtain ⟨after, reads, later⟩ := exists_readsSimple_of_simples h
    obtain ⟨taken, split⟩ := reads.reads
    have shorter : after.rest.length ≤ limit :=
      Nat.le_trans (Nat.le.intro ((Nat.add_comm _ _).trans split.length_eq.symm)) short
    exact List.forall_mem_cons.2 ⟨reads.simpleForm nests short, ih shorter later⟩

/-- A compound of one simple selector is that one, and there is no compound of none. -/
lemma compoundForm_of_read {text : Text} {offset : Nat} (nests : NestedNormal nested limit)
    (short : text.length ≤ limit) (nonempty : text ≠ [])
    (h : read nested text offset = .ok condition) : CompoundForm condition := by
  obtain ⟨conditions, read, rfl⟩ := read_eq_ok_iff.1 h
  refine compoundForm_allOf ?_ (simples_simpleForm nests short read)
  rintro rfl
  exact nonempty (simples_eq_nil_iff.1 read)

end Compound

/-! ### Alternatives -/

/-- What has been read of a selector is in normal form, part by part. -/
structure Progress.Normal (progress : Progress) : Prop where
  finished : ∀ c ∈ progress.finished, AlternativeForm c
  complete : ∀ c, progress.chain = .complete c → AlternativeForm c
  awaiting : ∀ left k o, progress.chain = .awaiting left k o → left = .scope ∨ AlternativeForm left

namespace Progress

variable {query : Query} {progress progress' : Progress}

/-- At the start nothing has been read. -/
lemma normal_start : start.Normal := ⟨nofun, nofun, nofun⟩

/-- A complete alternative is one more in normal form. -/
lemma Normal.all {last : Condition} (normal : progress.Normal)
    (complete : progress.chain = .complete last) :
    ∀ c ∈ progress.finished ++ [last], AlternativeForm c := by
  intro c member
  rcases List.mem_append.1 member with member | member
  · exact normal.finished c member
  · cases List.mem_singleton.1 member
    exact normal.complete _ complete

/-- A compound is put to the right of what it relates to. -/
lemma Normal.compound {chain : Chain} {text : Text} {offset : Nat} (normal : progress.Normal)
    (nests : NestedNormal nested limit) (short : text.length ≤ limit) (nonempty : text ≠ [])
    (h : progress.chain.compound nested text offset = .ok chain) :
    ∃ condition, chain = .complete condition ∧ AlternativeForm condition := by
  obtain ⟨condition, read, before⟩ := Chain.compound_eq_ok_iff.1 h
  have right := Compound.compoundForm_of_read nests short nonempty read
  rcases before with ⟨-, rfl⟩ | ⟨left, k, o, waits, rfl⟩
  · exact ⟨condition, rfl, .compound right⟩
  · refine ⟨_, rfl, ?_⟩
    rcases normal.awaiting left k o waits with rfl | left
    · exact .fromRoot right
    · exact .combined right left

/-- A token keeps what has been read in normal form. -/
lemma Normal.step {token : Token} (normal : progress.Normal) (nests : NestedNormal nested limit)
    (short : token.Short limit)
    (nonempty : ∀ text offset, token = .compound text offset → text ≠ [])
    (h : progress.step nested query token = .ok progress') : progress'.Normal := by
  match token with
  | .compound text offset =>
    obtain ⟨chain, compound, rfl⟩ := map_eq_ok_iff.1 h
    obtain ⟨condition, rfl, form⟩ := normal.compound nests short (nonempty _ _ rfl) compound
    exact ⟨normal.finished, fun c e => by cases e; exact form, nofun⟩
  | .separator (.combinator k) offset =>
    obtain ⟨chain, next, rfl⟩ := map_eq_ok_iff.1 h
    obtain ⟨left, before, rfl⟩ := Chain.combinator_eq_ok_iff.1 next
    refine ⟨normal.finished, nofun, fun left' k' o e => ?_⟩
    cases e
    rcases before with ⟨-, rfl⟩ | complete
    · exact .inl rfl
    · exact .inr (normal.complete _ complete)
  | .separator .comma offset =>
    obtain ⟨last, complete, rfl⟩ := step_comma_eq_ok_iff.1 h
    exact ⟨normal.all complete, nofun, nofun⟩

/-- Several tokens keep what has been read in normal form. -/
lemma Normal.foldlM {tokens : List Token} (normal : progress.Normal)
    (nests : NestedNormal nested limit) (short : ∀ token ∈ tokens, token.Short limit)
    (nonempty : ∀ text offset, .compound text offset ∈ tokens → text ≠ [])
    (h : tokens.foldlM (Progress.step nested query) progress = .ok progress') :
    progress'.Normal := by
  refine foldlM_keeps (fun token member _ _ normal next => ?_) normal h
  refine normal.step nests (short token member) (fun text offset e => ?_) next
  exact nonempty text offset (e ▸ member)

end Progress

/-- A selector compiles to a normal form if those inside it do. -/
lemma Query.normalForm_of_compile {query : Query} (nests : NestedNormal nested query.text.length)
    (h : query.compile nested = .ok condition) : NormalForm condition := by
  obtain ⟨tokens, progress, read, folded, finished⟩ := Query.compile_eq_ok_iff.1 h
  have normal := Progress.normal_start.foldlM nests (short_of_mem_tokens read)
    (fun _ _ => ne_nil_of_mem_tokens read) folded
  obtain ⟨last, complete, rfl⟩ := Progress.finish_eq_ok_iff.1 finished
  exact normalForm_anyOf (by simp) (normal.all complete)

/-- A selector parses to a normal form, wherever it stands. -/
lemma normalForm_of_parseAt {text : Text} {base : Nat} (h : parseAt text base = .ok condition) :
    NormalForm condition := by
  induction size : text.length using Nat.strongRecOn generalizing text base condition with
  | ind n ih =>
    rw [parseAt_eq_compile] at h
    refine Query.normalForm_of_compile (fun inner offset condition shorter read => ?_) h
    exact ih inner.length (size ▸ shorter) read rfl

/-! ### Parts -/

/-- The first condition is the second one or stands somewhere in it. -/
inductive Condition.Within (part : Condition) : Condition → Prop where
  | self : Within part part
  | has {inner : Condition} : Within part inner → Within part (.has inner)
  | not {inner : Condition} : Within part inner → Within part (.not inner)
  | all {conditions : List Condition} {one : Condition} :
    one ∈ conditions → Within part one → Within part (.all conditions)
  | any {conditions : List Condition} {one : Condition} :
    one ∈ conditions → Within part one → Within part (.any conditions)
  | related {combinator : Combinator} {left : Condition} :
    Within part left → Within part (.related combinator left)

/-- What stands in a condition in normal form: a condition in normal form, the root of the search,
or how something relates to one of these. -/
inductive PartForm : Condition → Prop where
  | normal {condition : Condition} : NormalForm condition → PartForm condition
  | scope : PartForm .scope
  | related {combinator : Combinator} {left : Condition} :
    PartForm left → PartForm (.related combinator left)

namespace PartForm

variable {inner left one : Condition} {combinator : Combinator}

/-- An alternative may stand in a condition. -/
lemma alternative (h : AlternativeForm condition) : PartForm condition := .normal (.alternative h)

/-- A simple condition may stand in a condition. -/
lemma simple (h : SimpleForm condition) : PartForm condition := alternative (.compound (.simple h))

/-- The argument of `has` is such a part. -/
lemma of_has (h : PartForm (.has inner)) : PartForm inner := by
  obtain ⟨⟨⟨⟨simple⟩⟩⟩⟩ := h
  cases simple with
  | has normal => exact .normal normal

/-- The argument of `not` is such a part. -/
lemma of_not (h : PartForm (.not inner)) : PartForm inner := by
  obtain ⟨⟨⟨⟨simple⟩⟩⟩⟩ := h
  cases simple with
  | not normal => exact .normal normal

/-- What has to hold all together are such parts. -/
lemma of_all (h : PartForm (.all conditions)) (member : one ∈ conditions) : PartForm one := by
  obtain ⟨⟨all⟩⟩ := h
  cases all with
  | compound compound =>
    cases compound with
    | simple simple => cases simple
    | all _ simple => exact PartForm.simple (simple one member)
  | fromRoot right =>
    rcases List.mem_pair.1 member with rfl | rfl
    · exact alternative (.compound right)
    · exact .related .scope
  | combined right left =>
    rcases List.mem_pair.1 member with rfl | rfl
    · exact alternative (.compound right)
    · exact .related (alternative left)

/-- What may hold one or another are such parts. -/
lemma of_any (h : PartForm (.any conditions)) (member : one ∈ conditions) : PartForm one := by
  obtain ⟨normal⟩ := h
  cases normal with
  | alternative h => obtain ⟨⟨⟨⟩⟩⟩ := h
  | any _ alternatives => exact alternative (alternatives one member)

/-- What something is related to is such a part. -/
lemma of_related (h : PartForm (.related combinator left)) : PartForm left := by
  cases h with
  | normal normal => obtain ⟨⟨⟨⟨⟩⟩⟩⟩ := normal
  | related left => exact left

/-- What stands in such a part is such a part. -/
lemma of_within {part whole : Condition} (within : part.Within whole) (h : PartForm whole) :
    PartForm part := by
  induction within with
  | self => exact h
  | has _ ih => exact ih h.of_has
  | not _ ih => exact ih h.of_not
  | all member _ ih => exact ih (h.of_all member)
  | any member _ ih => exact ih (h.of_any member)
  | related _ ih => exact ih h.of_related

/-- The coefficients of a formula in such a part can be negated. -/
lemma negatable {counting : Counting} {formula : Nth} (h : PartForm (.nth counting formula)) :
    formula.Negatable := by
  obtain ⟨⟨⟨⟨simple⟩⟩⟩⟩ := h
  cases simple with
  | nth negatable => exact negatable

end PartForm

/-- Whatever a selector compiles to is in normal form. -/
theorem normalForm_of_parse {s : Text} (h : parse s = .ok condition) : NormalForm condition :=
  normalForm_of_parseAt h

end

attribute [local instance] Pattern.engine

/-- Two alternatives, the second with a relation in it, and a selector inside the first. -/
theorem normalForm_of_parse_nested :
    ∃ condition, parse "LI[Data-X = ' Y ']:not(> .a, #b), ~ |ul:NTH-child(-N + 3) p".toList =
        .ok condition ∧ NormalForm condition := by
  obtain ⟨condition, read⟩ := isOk_iff.1 (show (parse
    "LI[Data-X = ' Y ']:not(> .a, #b), ~ |ul:NTH-child(-N + 3) p".toList).isOk by decide +kernel)
  exact ⟨condition, read, normalForm_of_parse read⟩

end TreeQuery.Selector
