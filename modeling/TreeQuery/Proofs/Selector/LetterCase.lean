import TreeQuery.Proofs.Selector.Rendering

/-!
# Letter case in selectors

A selector reads the same in another letter case, token by token and region by region, for nothing
that divides it is a letter.  Keywords, tags, keys, values and words are written small as they are
read, and the names of classes are compared so later on.  Ids and patterns keep their case, so what
compiles is the same condition up to the case of classes if it holds neither.  Main statement:
`parseAt_recased`.
-/

namespace TreeQuery.Selector
open Text (lower)

/-! ### Characters -/

/-- A character is a quote in both cases or in neither. -/
lemma isQuote_toLower (c : Char) : isQuote c.toLower = isQuote c :=
  Text.toLower_cases (P := fun c small => isQuote small = isQuote c) (by decide) (fun _ => rfl) c

/-- A character is one of names in both cases or in neither. -/
lemma isNameChar_toLower (c : Char) : isNameChar c.toLower = isNameChar c := by
  rw [isNameChar, isNameChar, Text.isAlphanumeric_toLower, Text.toLower_beq rfl,
    Text.toLower_beq rfl]

/-- A character is one of tags in both cases or in neither. -/
lemma isTagChar_toLower (c : Char) : isTagChar c.toLower = isTagChar c := by
  rw [isTagChar, isTagChar, isNameChar_toLower, Text.toLower_beq rfl]

/-! ### Tokens -/

/-- What is not a certain mark does not become it in another case. -/
lemma ne_of_toLower_eq {c d x : Char} (same : c.toLower = d.toLower) (other : x.isAlpha = false)
    (differ : c ≠ x) : d ≠ x :=
  mt (Text.eq_iff_of_toLower_eq same other).2 differ

/-- Quotes are no letters. -/
lemma isAlpha_of_isQuote {q : Char} (quote : isQuote q) : q.isAlpha = false := by
  rcases (Bool.or_eq_true _ _).mp quote with e | e <;> cases eq_of_beq e <;> rfl

/-- What stands inside quotes may be written in another case. -/
lemma Quoted.recased {q : Char} {t u : Text} (quote : isQuote q) (h : Quoted q t)
    (same : lower t = lower u) : Quoted q u := by
  induction h generalizing u with
  | nil =>
    cases Text.lower_eq_nil_iff.1 same.symm
    exact .nil
  | hidden _ ih =>
    obtain ⟨c, u, rfl, backslash, same⟩ := Text.exists_cons_of_lower_eq same
    obtain ⟨d, u, rfl, -, later⟩ := Text.exists_cons_of_lower_eq same
    cases (Text.eq_iff_of_toLower_eq backslash rfl).1 rfl
    exact .hidden (ih later)
  | plain backslash other _ ih =>
    obtain ⟨c, u, rfl, first, later⟩ := Text.exists_cons_of_lower_eq same
    exact .plain (ne_of_toLower_eq first rfl backslash)
      (ne_of_toLower_eq first (isAlpha_of_isQuote quote) other) (ih later)

/-- The brackets are no letters. -/
lemma Brackets.isAlpha_of_known {brackets : Brackets}
    (known : brackets = .round ∨ brackets = .square) :
    brackets.opening.isAlpha = false ∧ brackets.closing.isAlpha = false := by
  rcases known with rfl | rfl <;> exact ⟨rfl, rfl⟩

/-- A text stays balanced in another case. -/
lemma Balanced.recased {brackets : Brackets} {t u : Text}
    (known : brackets = .round ∨ brackets = .square) (h : Balanced brackets t)
    (same : lower t = lower u) : Balanced brackets u := by
  obtain ⟨opening, closing⟩ := Brackets.isAlpha_of_known known
  induction h generalizing u with
  | nil =>
    cases Text.lower_eq_nil_iff.1 same.symm
    exact .nil
  | hidden _ ih =>
    obtain ⟨c, u, rfl, backslash, same⟩ := Text.exists_cons_of_lower_eq same
    obtain ⟨d, u, rfl, -, later⟩ := Text.exists_cons_of_lower_eq same
    cases (Text.eq_iff_of_toLower_eq backslash rfl).1 rfl
    exact .hidden (ih later)
  | quoted quote inside _ ih =>
    have mark := isAlpha_of_isQuote quote
    obtain ⟨s', t', rfl, within, later⟩ := Text.exists_enclosed_of_lower_eq mark mark same
    exact .quoted quote (inside.recased quote within) (ih later)
  | nested _ _ ih ih' =>
    obtain ⟨s', t', rfl, within, later⟩ := Text.exists_enclosed_of_lower_eq opening closing same
    exact .nested (ih within) (ih' later)
  | plain backslash bare opens closes _ ih =>
    obtain ⟨c, u, rfl, first, later⟩ := Text.exists_cons_of_lower_eq same
    refine .plain (ne_of_toLower_eq first rfl backslash) ?_
      (ne_of_toLower_eq first opening opens) (ne_of_toLower_eq first closing closes) (ih later)
    rw [← isQuote_toLower, ← first, isQuote_toLower, bare]

/-- A text stays a compound in another case. -/
lemma CompoundText.recased {t u : Text} (h : CompoundText t) (same : lower t = lower u) :
    CompoundText u := by
  induction h generalizing u with
  | nil =>
    cases Text.lower_eq_nil_iff.1 same.symm
    exact .nil
  | @region brackets body t known balanced _ ih =>
    obtain ⟨opening, closing⟩ := Brackets.isAlpha_of_known known
    rw [List.append_assoc, List.singleton_append] at same
    obtain ⟨s', t', rfl, within, later⟩ := Text.exists_enclosed_of_lower_eq opening closing same
    rw [List.append_cons]
    exact .region known (balanced.recased known within) (ih later)
  | char visible plain _ ih =>
    obtain ⟨c, u, rfl, first, later⟩ := Text.exists_cons_of_lower_eq same
    refine .char ?_ ?_ (ih later)
    · rw [← Text.isBlank_toLower, ← first, Text.isBlank_toLower, visible]
    · exact Text.not_mem_of_toLower_eq first (by decide) plain

/-- Tokens of the same kind at the same place, with the same text up to case. -/
inductive Token.Recased : Token → Token → Prop where
  | compound {t u : Text} {offset : Nat} :
    lower t = lower u → Recased (.compound t offset) (.compound u offset)
  | separator {mark : Separator} {offset : Nat} :
    Recased (.separator mark offset) (.separator mark offset)

/-- White space stays white space in another case. -/
lemma Blank.recased {gap gap' : Text} (h : Blank gap) (same : lower gap = lower gap') :
    Blank gap' :=
  Text.all_of_lower_eq Text.isBlank_toLower same h

/-- No separator is a letter. -/
lemma isAlpha_toChar (mark : Separator) : mark.toChar.isAlpha = false := by
  rcases mark with _ | (_ | _ | _ | _) <;> rfl

/-- A text in another case is not empty either. -/
lemma ne_nil_of_lower_eq {t u : Text} (same : lower t = lower u) (nonempty : t ≠ []) : u ≠ [] := by
  rintro rfl
  exact nonempty (Text.lower_eq_nil_iff.1 same)

namespace Token

variable {token token' : Token}

/-- Tokens keep their places in another case. -/
lemma Recased.offset_eq (h : token.Recased token') : token'.offset = token.offset := by
  cases h <;> rfl

/-- Tokens keep what may stand beside them. -/
lemma Recased.side_eq (h : token.Recased token') : token'.side = token.side := by
  cases h <;> rfl

/-- What is written in another case is the token in another case. -/
lemma Writes.recased {t u : Text} (h : token.Writes t) (same : lower t = lower u) :
    ∃ token', token.Recased token' ∧ token'.Writes u := by
  cases h with
  | compound text nonempty =>
    exact ⟨_, .compound same, .compound (text.recased same) (ne_nil_of_lower_eq same nonempty)⟩
  | @mark mark _ own =>
    obtain ⟨c, rest, rfl, first, empty⟩ := Text.exists_cons_of_lower_eq same
    cases Text.lower_eq_nil_iff.1 empty.symm
    cases (Text.eq_iff_of_toLower_eq first (isAlpha_toChar mark)).1 rfl
    exact ⟨_, .separator, .mark own⟩
  | descent blank nonempty =>
    exact ⟨_, .separator, .descent (blank.recased same) (ne_nil_of_lower_eq same nonempty)⟩

end Token

/-- A text in another case is written as tokens of the same kinds at the same places. -/
lemma Rendering.recased {left : Side} {offset : Nat} {tokens : List Token} {t u : Text}
    (h : Rendering left offset tokens t) (same : lower t = lower u) :
    ∃ tokens', List.Forall₂ Token.Recased tokens tokens' ∧ Rendering left offset tokens' u := by
  induction h generalizing u with
  | nil meets blank => exact ⟨[], .nil, .nil meets (blank.recased same)⟩
  | @cons left offset token tokens gap written rest meets blank loose place writes _ ih =>
    obtain ⟨front, rest', rfl, same, later⟩ := Text.exists_append_of_lower_eq same
    obtain ⟨gap', written', rfl, around, same⟩ := Text.exists_append_of_lower_eq same
    obtain ⟨token', recased, writes'⟩ := writes.recased same
    obtain ⟨tokens', recased', rendering⟩ := ih later
    refine ⟨token' :: tokens', .cons recased recased', ?_⟩
    rw [← recased.side_eq] at meets loose rendering
    rw [← recased.offset_eq] at place rendering
    refine .cons meets (blank.recased around) (fun wide => loose ?_) ?_ writes' ?_
    · exact ne_nil_of_lower_eq around.symm wide
    · rw [place, Text.byteLength_eq_of_lower_eq around]
    · rw [← Text.byteLength_eq_of_lower_eq same]
      exact rendering

/-! ### Arguments -/

/-- What looks at small letters alone is the same in another case. -/
lemma eq_of_lower_eq {s t : Text} {α : Type} {f : Text → α} (lowers : ∀ t, f (lower t) = f t)
    (same : lower s = lower t) : f s = f t := by
  rw [← lowers, same, lowers]

namespace AttributeTest

/-- Quotes are dropped the same in small letters. -/
lemma unquote_lower (t : Text) : unquote (lower t) = lower (unquote t) := by
  cases t with
  | nil => rfl
  | cons quote rest =>
    have ends (outer : isQuote quote) :
        ((lower rest).getLast? == some quote.toLower) = (rest.getLast? == some quote) := by
      have mark := isAlpha_of_isQuote outer
      rw [(Text.toLower_eq_iff mark).2 rfl, lower, List.getLast?_map]
      cases rest.getLast? with
      | none => rfl
      | some last => exact Text.toLower_beq mark
    change (if isQuote quote.toLower && (lower rest).getLast? == some quote.toLower then
        (lower rest).dropLast else lower (quote :: rest)) =
      lower (if isQuote quote && rest.getLast? == some quote then rest.dropLast else quote :: rest)
    rw [isQuote_toLower]
    cases outer : isQuote quote with
    | false => rfl
    | true =>
      rw [ends outer]
      split
      · exact List.map_dropLast.symm
      · rfl

/-- The marks of operators have no case. -/
lemma ofMark?_toLower (c : Char) : Operator.ofMark? c.toLower = Operator.ofMark? c :=
  Text.toLower_cases (P := fun c small => Operator.ofMark? small = Operator.ofMark? c) (by decide)
    (fun _ => rfl) c

/-- An operator is split from the key the same in small letters. -/
lemma splitOperator_lower (before : Text) :
    splitOperator (lower before) = (lower (splitOperator before).1, (splitOperator before).2) := by
  have same : (lower before).getLast?.bind Operator.ofMark? =
      before.getLast?.bind Operator.ofMark? := by
    rw [lower, List.getLast?_map, Option.bind_map]
    exact congrArg _ (funext ofMark?_toLower)
  unfold splitOperator
  rw [same]
  cases before.getLast?.bind Operator.ofMark? with
  | none => rfl
  | some operator => exact congrArg (·, operator) List.map_dropLast.symm

end AttributeTest

/-- A formula is read the same in small letters. -/
lemma Nth.read?_lower (t : Text) : read? (lower t) = read? t := by
  unfold read?
  rw [← Text.lower_trim, Text.lower_lower]

namespace Parameter

/-- An integer is read the same in small letters. -/
lemma integer?_lower (t : Text) : integer? (lower t) = integer? t := by
  unfold integer?
  rw [← Text.lower_trim, Text.toInt?_lower]

/-- The text of a search is read in small letters. -/
lemma searchText_lower (t : Text) : searchText (lower t) = searchText t := by
  unfold searchText
  rw [← Text.lower_unescape]
  cases Text.unescape t with
  | nil => rfl
  | cons c t => exact congrArg Except.ok (Text.lower_lower (c :: t))

end Parameter

/-! ### Cursors -/

/-- A tag is read in small letters. -/
lemma Compound.normalizeTag_lower (written : Text) :
    normalizeTag (lower written) = normalizeTag written := by
  have bar (c : Char) : (c.toLower == '|') = (c == '|') := Text.toLower_beq rfl
  unfold normalizeTag
  rw [← Text.lower_dropWhile bar]
  generalize written.dropWhile (· == '|') = t
  unfold lower
  rw [List.map_map, List.map_map, List.map_map]
  refine List.map_congr_left fun c _ => ?_
  simp only [Function.comp_apply, bar]
  split
  · rfl
  · exact Text.toLower_of_not_isUpper (Text.isUpper_toLower c)

/-- The cursors stand at the same place in front of texts that are the same up to case. -/
structure Cursor.Recased (cursor cursor' : Cursor) : Prop where
  offset_eq : cursor'.offset = cursor.offset
  rest_eq : lower cursor.rest = lower cursor'.rest

namespace Cursor.Recased

variable {cursor cursor' after : Cursor}

/-- Cursors are the same up to case either way. -/
lemma symm (h : cursor.Recased cursor') : cursor'.Recased cursor :=
  ⟨h.offset_eq.symm, h.rest_eq.symm⟩

/-- Moving over texts that are the same up to case keeps cursors the same up to case. -/
lemma past (h : cursor.Recased cursor') {taken taken' rest rest' : Text}
    (same : lower taken = lower taken') (later : lower rest = lower rest') :
    (cursor.past taken rest).Recased (cursor'.past taken' rest') where
  offset_eq := by
    change cursor'.offset + _ = cursor.offset + _
    rw [h.offset_eq, Text.byteLength_eq_of_lower_eq same]
  rest_eq := later

/-- A mark that is no letter stands in both texts. -/
lemma mark (h : cursor.Recased cursor') {x : Char} {rest : Text} (other : x.isAlpha = false)
    (first : cursor.rest = x :: rest) :
    ∃ rest', cursor'.rest = x :: rest' ∧
      (cursor.past [x] rest).Recased (cursor'.past [x] rest') := by
  have same := h.rest_eq
  rw [first] at same
  obtain ⟨c, rest', first', marks, later⟩ := Text.exists_cons_of_lower_eq same
  cases (Text.eq_iff_of_toLower_eq marks other).1 rfl
  exact ⟨rest', first', h.past rfl later⟩

/-- Characters are taken the same in another case, if it does not matter to which ones are taken. -/
lemma takeWhile (h : cursor.Recased cursor') {p : Char → Bool} {run : Text}
    (recased : ∀ c, p c.toLower = p c) (read : cursor.takeWhile p = (run, after)) :
    ∃ run' after', cursor'.takeWhile p = (run', after') ∧ lower run = lower run' ∧
      after.Recased after' := by
  cases read
  have taken : lower (cursor.rest.takeWhile p) = lower (cursor'.rest.takeWhile p) := by
    rw [Text.lower_takeWhile recased, h.rest_eq, Text.lower_takeWhile recased]
  have left : lower (cursor.rest.dropWhile p) = lower (cursor'.rest.dropWhile p) := by
    rw [Text.lower_dropWhile recased, h.rest_eq, Text.lower_dropWhile recased]
  exact ⟨_, _, rfl, taken, h.past taken left⟩

/-- A region is read the same in another case. -/
lemma region (h : cursor.Recased cursor') {brackets : Brackets} {body : Text}
    (known : brackets = .round ∨ brackets = .square)
    (read : cursor.region brackets = (.ok body, after)) :
    ∃ body' after', cursor'.region brackets = (.ok body', after') ∧ lower body = lower body' ∧
      after.Recased after' := by
  have distinct := Brackets.distinct_of_known known
  obtain ⟨opening, closing⟩ := Brackets.isAlpha_of_known known
  obtain ⟨t, rest, first, closed, rfl⟩ := region_eq_ok_iff.1 read
  rw [Region.eq_of_scan_eq_closed closed] at first
  have same := h.rest_eq
  rw [first, ← List.cons_append] at same
  obtain ⟨body', rest', split, within, later⟩ :=
    Text.exists_enclosed_of_lower_eq opening closing same
  have balanced := (balanced_of_region distinct read).recased known within
  refine ⟨body', _, region_of_balanced distinct balanced split, within, h.past ?_ later⟩
  rw [Text.lower_append, Text.lower_append]
  exact congrArg (brackets.opening.toLower :: · ++ lower [brackets.closing]) within

end Cursor.Recased

variable [PatternEngine]

/-! ### Conditions -/

namespace Condition

mutual

/-- Whether the condition compares no ids and looks for no patterns, at any depth. -/
def caseless : Condition → Bool
  | .id _ | .attributeMatches .. | .matchesPattern .. => false
  | .has inner | .not inner | .related _ inner => inner.caseless
  | .all conditions | .any conditions => caselessList conditions
  | _ => true

/-- Whether none of the conditions compares ids or looks for patterns. -/
def caselessList : List Condition → Bool
  | [] => true
  | condition :: more => condition.caseless && caselessList more

end

mutual

/-- The condition with the names of classes in small letters. -/
def lower : Condition → Condition
  | .hasClass name => .hasClass (Text.lower name)
  | .has inner => .has inner.lower
  | .not inner => .not inner.lower
  | .all conditions => .all (lowerList conditions)
  | .any conditions => .any (lowerList conditions)
  | .related combinator left => .related combinator left.lower
  | condition => condition

/-- The conditions with the names of classes in small letters. -/
def lowerList : List Condition → List Condition
  | [] => []
  | condition :: more => condition.lower :: lowerList more

end

/-- Several conditions ignore letter case if each of them does. -/
lemma caselessList_eq_all (conditions : List Condition) :
    caselessList conditions = conditions.all (·.caseless) := by
  induction conditions with
  | nil => rfl
  | cons condition more ih => rw [caselessList, ih, List.all_cons]

/-- Several conditions are made small one by one. -/
lemma lowerList_eq_map (conditions : List Condition) :
    lowerList conditions = conditions.map (·.lower) := by
  induction conditions with
  | nil => rfl
  | cons condition more ih => rw [lowerList, ih, List.map_cons]

variable {condition : Condition} {conditions conditions' : List Condition}

/-- A compound ignores letter case if all of its tests do. -/
lemma caseless_allOf : (allOf conditions).caseless ↔ ∀ c ∈ conditions, c.caseless := by
  match conditions with
  | [_] => simp [allOf]
  | [] | _ :: _ :: _ => simp [allOf, caseless, caselessList_eq_all]

/-- Alternatives ignore letter case if each of them does. -/
lemma caseless_anyOf : (anyOf conditions).caseless ↔ ∀ c ∈ conditions, c.caseless := by
  match conditions with
  | [_] => simp [anyOf]
  | [] | _ :: _ :: _ => simp [anyOf, caseless, caselessList_eq_all]

/-- A compound is made small test by test. -/
lemma lower_allOf : (allOf conditions).lower = allOf (conditions.map (·.lower)) := by
  match conditions with
  | [_] => rfl
  | [] | _ :: _ :: _ => exact congrArg all (lowerList_eq_map _)

/-- Alternatives are made small one by one. -/
lemma lower_anyOf : (anyOf conditions).lower = anyOf (conditions.map (·.lower)) := by
  match conditions with
  | [_] => rfl
  | [] | _ :: _ :: _ => exact congrArg any (lowerList_eq_map _)

/-- A combination ignores letter case if both of its sides do. -/
lemma caseless_combine {left right : Condition} {k : Combinator} :
    (left.combine k right).caseless ↔ left.caseless ∧ right.caseless := by
  simp [combine, caseless, caselessList, and_comm]

/-- A combination is made small on both sides. -/
lemma lower_combine (left right : Condition) (k : Combinator) :
    (left.combine k right).lower = left.lower.combine k right.lower := rfl

end Condition

/-! ### Attribute tests and pseudo-classes -/

section

variable {inner inner' : Text}

namespace AttributeTest

/-- An attribute test in another case reads as the same condition. -/
lemma Reads.recased {condition : Condition} (h : Reads inner condition)
    (same : lower inner = lower inner') (caseless : condition.caseless) :
    Reads inner' condition := by
  have start (c : Char) : (c.toLower != '=') = (c != '=') := congrArg not (Text.toLower_beq rfl)
  have trimmed : lower (Text.trim inner) = lower (Text.trim inner') := by
    rw [Text.lower_trim, same, Text.lower_trim]
  have front : lower (inner.takeWhile (· != '=')) = lower (inner'.takeWhile (· != '=')) := by
    rw [Text.lower_takeWhile start, same, Text.lower_takeWhile start]
  have back : lower (inner.dropWhile (· != '=')) = lower (inner'.dropWhile (· != '=')) := by
    rw [Text.lower_dropWhile start, same, Text.lower_dropWhile start]
  cases h with
  | starting bare first long =>
    rw [bare] at back
    rw [first] at trimmed
    obtain ⟨c, u, first', mark, later⟩ := Text.exists_cons_of_lower_eq trimmed
    cases (Text.eq_iff_of_toLower_eq mark rfl).1 rfl
    rw [later]
    exact .starting (Text.lower_eq_nil_iff.1 back.symm) first' (ne_nil_of_lower_eq later long)
  | name bare nonempty plain =>
    rw [bare] at back
    rw [trimmed]
    refine .name (Text.lower_eq_nil_iff.1 back.symm) (ne_nil_of_lower_eq trimmed nonempty) ?_
    intro start first
    rw [first] at trimmed
    obtain ⟨c, u, first', mark, -⟩ := Text.exists_cons_of_lower_eq trimmed.symm
    cases (Text.eq_iff_of_toLower_eq mark rfl).1 rfl
    exact plain u first'
  | @value mark after key value comparison rest before named given nonempty =>
    rw [rest] at back
    obtain ⟨mark', after', rest', -, later⟩ := Text.exists_cons_of_lower_eq back
    have split := (splitOperator_lower _).symm.trans
      ((congrArg splitOperator front).trans (splitOperator_lower _))
    rw [before] at split
    obtain ⟨keys, operators⟩ := Prod.mk.inj split
    have key_eq : lower (Text.trim key) =
        lower (Text.trim (splitOperator (inner'.takeWhile (· != '='))).1) := by
      rw [Text.lower_trim, keys, Text.lower_trim]
    have value_eq : lower value = lower (Text.trim (unquote (Text.trim after'))) := by
      rw [← given, Text.lower_trim, ← unquote_lower, Text.lower_trim, later, ← Text.lower_trim,
        unquote_lower, ← Text.lower_trim]
    rw [key_eq, value_eq]
    exact .value rest' (Prod.ext rfl operators.symm) (ne_nil_of_lower_eq key_eq named) rfl
      (ne_nil_of_lower_eq value_eq nonempty)
  | pattern => cases caseless

end AttributeTest

/-- A reader of inner selectors answers the same up to case for texts of less than `limit`
characters, if the answer does not depend on case. -/
def NestedRecased (nested : Nested) (limit : Nat) : Prop :=
  ∀ inner inner' offset condition, inner.length < limit → lower inner = lower inner' →
    nested inner offset = .ok condition → condition.caseless →
    ∃ condition', nested inner' offset = .ok condition' ∧ condition'.lower = condition.lower

variable {nested : Nested} {limit : Nat} {condition : Condition}

namespace Parameter

/-- Arguments are read the same in another case, patterns apart. -/
lemma read_recased {name name' argument argument' : Text} {offset : Nat} {parameter : Parameter}
    (nests : NestedRecased nested limit) (short : argument.length < limit)
    (same : lower argument = lower argument') (caseless : condition.caseless)
    (h : parameter.read nested name argument offset = .ok condition) :
    ∃ condition', parameter.read nested name' argument' offset = .ok condition' ∧
      condition'.lower = condition.lower := by
  cases parameter with
  | index =>
    refine ⟨condition, explain_eq_ok_iff.2 ?_, rfl⟩
    rw [← eq_of_lower_eq integer?_lower same]
    exact explain_eq_ok_iff.1 h
  | nth =>
    refine ⟨condition, explain_eq_ok_iff.2 ?_, rfl⟩
    rw [← eq_of_lower_eq Nth.read?_lower same]
    exact explain_eq_ok_iff.1 h
  | contains | containsData =>
    refine ⟨condition, explain_eq_ok_iff.2 ?_, rfl⟩
    rw [← eq_of_lower_eq searchText_lower same]
    exact explain_eq_ok_iff.1 h
  | matchesPattern =>
    obtain ⟨pattern, -, rfl⟩ := explain_map_eq_ok_iff.1 h
    cases caseless
  | has =>
    obtain ⟨inner, read, rfl⟩ := map_eq_ok_iff.1 h
    obtain ⟨inner', read', e⟩ := nests argument argument' offset inner short same read caseless
    exact ⟨.has inner', map_eq_ok_iff.2 ⟨inner', read', rfl⟩, congrArg Condition.has e⟩
  | not =>
    obtain ⟨inner, read, rfl⟩ := map_eq_ok_iff.1 h
    obtain ⟨inner', read', e⟩ := nests argument argument' offset inner short same read caseless
    exact ⟨.not inner', map_eq_ok_iff.2 ⟨inner', read', rfl⟩, congrArg Condition.not e⟩

end Parameter

namespace PseudoClass

variable {name name' : Text} {colon : Nat}

/-- A pseudo-class is found by its name in any case. -/
lemma ofName?_eq_of_lower_eq (names : lower name = lower name') : ofName? name' = ofName? name :=
  congrArg (fun known => List.lookup known table) names.symm

/-- A pseudo-class without an argument compiles the same in another case. -/
lemma compile_plain_recased (names : lower name = lower name')
    (h : compile nested name colon none = .ok condition) :
    compile nested name' colon none = .ok condition := by
  rcases compile_eq_ok_iff.1 h with ⟨known, -⟩ | ⟨_, _, _, -, call, -⟩
  · exact compile_eq_ok_iff.2 (.inl ⟨(ofName?_eq_of_lower_eq names).trans known, rfl⟩)
  · cases call

/-- A pseudo-class with an argument compiles the same in another case. -/
lemma compile_call_recased {argument argument' : Text} {start : Nat}
    (nests : NestedRecased nested limit) (short : argument.length < limit)
    (names : lower name = lower name') (same : lower argument = lower argument')
    (caseless : condition.caseless)
    (h : compile nested name colon (some (argument, start)) = .ok condition) :
    ∃ condition', compile nested name' colon (some (argument', start)) = .ok condition' ∧
      condition'.lower = condition.lower := by
  rcases compile_eq_ok_iff.1 h with ⟨-, bare⟩ | ⟨parameter, _, _, known, call, read⟩
  · cases bare
  · cases call
    obtain ⟨condition', read', e⟩ := Parameter.read_recased nests short same caseless read
    have known' := (ofName?_eq_of_lower_eq names).trans known
    exact ⟨condition', compile_eq_ok_iff.2 (.inr ⟨parameter, _, _, known', rfl, read'⟩), e⟩

end PseudoClass

end

/-! ### Simple selectors -/

namespace Compound

variable {nested : Nested} {limit : Nat} {cursor cursor' after : Cursor} {condition : Condition}

/-- A simple selector is read in another case if it is no id and holds no pattern. -/
lemma ReadsSimple.recased (nests : NestedRecased nested limit)
    (short : cursor.rest.length ≤ limit) (recased : cursor.Recased cursor')
    (caseless : condition.caseless) (h : ReadsSimple nested cursor condition after) :
    ∃ condition' after', ReadsSimple nested cursor' condition' after' ∧
      condition'.lower = condition.lower ∧ after.Recased after' := by
  cases h with
  | id => cases caseless
  | hasClass first read named =>
    obtain ⟨rest', first', front⟩ := recased.mark rfl first
    obtain ⟨name', after', read', same, behind⟩ := front.takeWhile isNameChar_toLower read
    exact ⟨.hasClass name', after', .hasClass first' read' (ne_nil_of_lower_eq same named),
      congrArg Condition.hasClass same.symm, behind⟩
  | universal first read =>
    obtain ⟨rest', first', front⟩ := recased.mark rfl first
    obtain ⟨tag', after', read', same, behind⟩ := front.takeWhile isTagChar_toLower read
    cases Text.lower_eq_nil_iff.1 same.symm
    exact ⟨.universal none, after', .universal first' read', rfl, behind⟩
  | universalTag first read named =>
    obtain ⟨rest', first', front⟩ := recased.mark rfl first
    obtain ⟨tag', after', read', same, behind⟩ := front.takeWhile isTagChar_toLower read
    rw [eq_of_lower_eq normalizeTag_lower same]
    exact ⟨_, after', .universalTag first' read' (ne_nil_of_lower_eq same named), rfl, behind⟩
  | attributeTest first region read =>
    obtain ⟨rest', first', -⟩ := recased.mark rfl first
    obtain ⟨inner', after', region', same, behind⟩ := recased.region (.inr rfl) region
    have read' := (AttributeTest.read_eq_ok_iff.1 read).recased same caseless
    exact ⟨condition, after', .attributeTest first' region' (AttributeTest.read_eq_ok_iff.2 read'),
      rfl, behind⟩
  | plain first read named bare compiled =>
    obtain ⟨rest', first', front⟩ := recased.mark rfl first
    obtain ⟨name', after', read', same, behind⟩ := front.takeWhile isNameChar_toLower read
    have compiled' := PseudoClass.compile_plain_recased same compiled
    rw [← recased.offset_eq] at compiled'
    have bare' : after'.peek ≠ some '(' := by
      intro opens
      obtain ⟨t, opens⟩ := List.head?_eq_some_iff.1 opens
      obtain ⟨t', opens', -⟩ := behind.symm.mark rfl opens
      exact bare (congrArg List.head? opens')
    exact ⟨condition, after', .plain first' read' (ne_nil_of_lower_eq same named) bare' compiled',
      rfl, behind⟩
  | call first read named region compiled =>
    obtain ⟨rest', first', front⟩ := recased.mark rfl first
    obtain ⟨name', middle, read', same, between⟩ := front.takeWhile isNameChar_toLower read
    obtain ⟨argument', after', region', within, behind⟩ := between.region (.inl rfl) region
    have shorter := Nat.lt_of_lt_of_le (argument_length_lt first read region) short
    obtain ⟨condition', compiled', lower_eq⟩ :=
      PseudoClass.compile_call_recased nests shorter same within caseless compiled
    rw [← recased.offset_eq, ← between.offset_eq] at compiled'
    exact ⟨condition', after', .call first' read' (ne_nil_of_lower_eq same named) region' compiled',
      lower_eq, behind⟩
  | tag first letter read =>
    obtain ⟨tag', after', read', same, behind⟩ := recased.takeWhile isTagChar_toLower read
    have split := recased.rest_eq
    rw [first] at split
    obtain ⟨d, rest', first', marks, -⟩ := Text.exists_cons_of_lower_eq split
    rw [← isTagChar_toLower, marks, isTagChar_toLower] at letter
    rw [eq_of_lower_eq normalizeTag_lower same]
    exact ⟨_, after', .tag first' letter read', rfl, behind⟩

/-- Simple selectors in another case compile to the same up to case. -/
lemma simples_recased {conditions : List Condition} (nests : NestedRecased nested limit)
    (short : cursor.rest.length ≤ limit) (recased : cursor.Recased cursor')
    (caseless : ∀ c ∈ conditions, c.caseless) (h : simples nested cursor = .ok conditions) :
    ∃ conditions', simples nested cursor' = .ok conditions' ∧
      conditions'.map (·.lower) = conditions.map (·.lower) := by
  induction conditions generalizing cursor cursor' with
  | nil =>
    have ended := simples_eq_nil_iff.1 h
    have same := recased.rest_eq
    rw [ended] at same
    exact ⟨[], simples_eq_nil_iff.2 (Text.lower_eq_nil_iff.1 same.symm), rfl⟩
  | cons condition conditions ih =>
    obtain ⟨after, reads, later⟩ := exists_readsSimple_of_simples h
    obtain ⟨first, others⟩ := List.forall_mem_cons.1 caseless
    obtain ⟨condition', after', reads', lower_eq, behind⟩ :=
      reads.recased nests short recased first
    obtain ⟨taken, split⟩ := reads.reads
    have shorter : after.rest.length ≤ limit :=
      Nat.le_trans (Nat.le.intro ((Nat.add_comm _ _).trans split.length_eq.symm)) short
    obtain ⟨conditions', later', lower_eq'⟩ := ih shorter behind others later
    refine ⟨condition' :: conditions', ?_, by rw [List.map_cons, lower_eq, lower_eq']; rfl⟩
    rw [simples_of_readsSimple reads', later']
    rfl

/-- A compound is read in another case if it holds no ids and no patterns. -/
lemma read_recased {text text' : Text} {offset : Nat} (nests : NestedRecased nested limit)
    (short : text.length ≤ limit) (same : lower text = lower text')
    (caseless : condition.caseless) (h : read nested text offset = .ok condition) :
    ∃ condition', read nested text' offset = .ok condition' ∧
      condition'.lower = condition.lower := by
  obtain ⟨conditions, simples, rfl⟩ := read_eq_ok_iff.1 h
  have recased : Cursor.Recased (.start offset text) (.start offset text') := ⟨rfl, same⟩
  obtain ⟨conditions', simples', lower_eq⟩ :=
    simples_recased nests short recased (Condition.caseless_allOf.1 caseless) simples
  refine ⟨_, read_eq_ok_iff.2 ⟨conditions', simples', rfl⟩, ?_⟩
  rw [Condition.lower_allOf, lower_eq, Condition.lower_allOf]

end Compound

/-! ### Alternatives -/

/-- What the chain holds compares no ids and looks for no patterns. -/
def Chain.Caseless : Chain → Prop
  | start => True
  | complete condition | awaiting condition .. => condition.caseless

/-- The chains hold the same up to case, combinators included. -/
inductive Chain.Recased : Chain → Chain → Prop where
  | start : Recased .start .start
  | complete {condition condition' : Condition} :
    condition'.lower = condition.lower → Recased (.complete condition) (.complete condition')
  | awaiting {left left' : Condition} {k : Combinator} {o : Nat} :
    left'.lower = left.lower → Recased (.awaiting left k o) (.awaiting left' k o)

namespace Chain

variable {nested : Nested} {limit : Nat} {query query' : Query} {chain chain' next : Chain}
  {offset : Nat}

/-- What is complete is complete in another case. -/
lemma Recased.of_complete {condition : Condition} (recased : chain.Recased chain')
    (complete : chain = .complete condition) :
    ∃ condition', chain' = .complete condition' ∧ condition'.lower = condition.lower := by
  subst complete
  cases recased with
  | complete lower_eq => exact ⟨_, rfl, lower_eq⟩

/-- What stands in front of a compound may be kept from looking at letter case by the compound, and
not the other way round. -/
lemma Caseless.of_compound {text : Text} (caseless : next.Caseless)
    (h : chain.compound nested text offset = .ok next) : chain.Caseless := by
  obtain ⟨condition, -, ⟨rfl, -⟩ | ⟨left, k, o, rfl, rfl⟩⟩ := compound_eq_ok_iff.1 h
  · trivial
  · exact (Condition.caseless_combine.1 caseless).1

/-- A combinator keeps what stands in front of it. -/
lemma Caseless.of_combinator {k : Combinator} (caseless : next.Caseless)
    (h : chain.combinator query k offset = .ok next) : chain.Caseless := by
  obtain ⟨left, ⟨rfl, -⟩ | rfl, rfl⟩ := combinator_eq_ok_iff.1 h
  · trivial
  · exact caseless

/-- A compound in another case completes a chain the same. -/
lemma Recased.compound {text text' : Text} (recased : chain.Recased chain')
    (nests : NestedRecased nested limit) (short : text.length ≤ limit)
    (same : lower text = lower text') (caseless : next.Caseless)
    (h : chain.compound nested text offset = .ok next) :
    ∃ next', chain'.compound nested text' offset = .ok next' ∧ next.Recased next' := by
  obtain ⟨condition, read, before⟩ := compound_eq_ok_iff.1 h
  have own : condition.caseless := by
    rcases before with ⟨-, rfl⟩ | ⟨left, k, o, -, rfl⟩
    · exact caseless
    · exact (Condition.caseless_combine.1 caseless).2
  obtain ⟨condition', read', lower_eq⟩ := Compound.read_recased nests short same own read
  rcases before with ⟨rfl, rfl⟩ | ⟨left, k, o, rfl, rfl⟩
  · cases recased
    exact ⟨_, compound_eq_ok_iff.2 ⟨condition', read', .inl ⟨rfl, rfl⟩⟩, .complete lower_eq⟩
  · cases recased with
    | @awaiting _ left' _ _ lower_eq' =>
      refine ⟨_, compound_eq_ok_iff.2 ⟨condition', read', .inr ⟨left', k, o, rfl, rfl⟩⟩,
        .complete ?_⟩
      rw [Condition.lower_combine, lower_eq, lower_eq', Condition.lower_combine]

/-- A combinator goes on with a chain in another case the same. -/
lemma Recased.combinator {k : Combinator} (recased : chain.Recased chain')
    (h : chain.combinator query k offset = .ok next) :
    ∃ next', chain'.combinator query' k offset = .ok next' ∧ next.Recased next' := by
  obtain ⟨left, ⟨rfl, rfl⟩ | rfl, rfl⟩ := combinator_eq_ok_iff.1 h
  · cases recased
    exact ⟨_, rfl, .awaiting rfl⟩
  · cases recased with
    | complete lower_eq => exact ⟨_, rfl, .awaiting lower_eq⟩

end Chain

namespace Progress

/-- What has been read compares no ids and looks for no patterns. -/
structure Caseless (progress : Progress) : Prop where
  finished : ∀ c ∈ progress.finished, c.caseless
  chain : progress.chain.Caseless

/-- The same has been read up to case. -/
structure Recased (progress progress' : Progress) : Prop where
  finished : progress'.finished.map (·.lower) = progress.finished.map (·.lower)
  chain : progress.chain.Recased progress'.chain

variable {nested : Nested} {limit : Nat} {query query' : Query}
  {progress progress' next : Progress} {token token' : Token}

/-- Nothing that has been read is lost. -/
lemma Caseless.of_step (caseless : next.Caseless)
    (h : progress.step nested query token = .ok next) : progress.Caseless := by
  match token with
  | .compound text offset =>
    obtain ⟨chain, compound, rfl⟩ := map_eq_ok_iff.1 h
    exact ⟨caseless.finished, caseless.chain.of_compound compound⟩
  | .separator (.combinator k) offset =>
    obtain ⟨chain, combinator, rfl⟩ := map_eq_ok_iff.1 h
    exact ⟨caseless.finished, caseless.chain.of_combinator combinator⟩
  | .separator .comma offset =>
    obtain ⟨last, complete, rfl⟩ := step_comma_eq_ok_iff.1 h
    obtain ⟨finished, last⟩ := List.forall_mem_append.1 caseless.finished
    exact ⟨finished, complete ▸ last _ (.head _)⟩

/-- Nothing of what has been read over several tokens is lost. -/
lemma Caseless.of_foldlM {tokens : List Token} (caseless : next.Caseless)
    (h : tokens.foldlM (Progress.step nested query) progress = .ok next) : progress.Caseless := by
  have back : next.Caseless → progress.Caseless :=
    foldlM_keeps (P := fun reached => reached.Caseless → progress.Caseless)
      (fun _ _ _ _ back step caseless => back (caseless.of_step step)) id h
  exact back caseless

/-- Alternatives up to case stay so with one more. -/
lemma Recased.all {last last' : Condition} (recased : progress.Recased progress')
    (lower_eq : last'.lower = last.lower) :
    (progress'.finished ++ [last']).map (·.lower) =
      (progress.finished ++ [last]).map (·.lower) := by
  rw [List.map_append, List.map_append, recased.finished]
  exact congrArg (_ ++ [·]) lower_eq

/-- A token in another case leads to the same up to case. -/
lemma Recased.step (recased : progress.Recased progress') (nests : NestedRecased nested limit)
    (short : token.Short limit) (same : token.Recased token') (caseless : next.Caseless)
    (h : progress.step nested query token = .ok next) :
    ∃ next', progress'.step nested query' token' = .ok next' ∧ next.Recased next' := by
  cases same with
  | compound same =>
    obtain ⟨chain, compound, rfl⟩ := map_eq_ok_iff.1 h
    obtain ⟨chain', compound', recased'⟩ :=
      recased.chain.compound nests short same caseless.chain compound
    exact ⟨_, map_eq_ok_iff.2 ⟨chain', compound', rfl⟩, recased.finished, recased'⟩
  | @separator mark offset =>
    cases mark with
    | combinator k =>
      obtain ⟨chain, combinator, rfl⟩ := map_eq_ok_iff.1 h
      obtain ⟨chain', combinator', recased'⟩ := recased.chain.combinator combinator
      exact ⟨_, map_eq_ok_iff.2 ⟨chain', combinator', rfl⟩, recased.finished, recased'⟩
    | comma =>
      obtain ⟨last, complete, rfl⟩ := step_comma_eq_ok_iff.1 h
      obtain ⟨last', complete', lower_eq⟩ := recased.chain.of_complete complete
      exact ⟨_, step_comma_eq_ok_iff.2 ⟨last', complete', rfl⟩, recased.all lower_eq, .start⟩

/-- Tokens in another case lead to the same up to case. -/
lemma Recased.foldlM {tokens tokens' : List Token} (recased : progress.Recased progress')
    (nests : NestedRecased nested limit) (short : ∀ token ∈ tokens, token.Short limit)
    (same : List.Forall₂ Token.Recased tokens tokens') (caseless : next.Caseless)
    (h : tokens.foldlM (Progress.step nested query) progress = .ok next) :
    ∃ next', tokens'.foldlM (Progress.step nested query') progress' = .ok next' ∧
      next.Recased next' := by
  induction same generalizing progress progress' with
  | nil =>
    cases h
    exact ⟨progress', rfl, recased⟩
  | cons same _ ih =>
    obtain ⟨middle, first, later⟩ := foldlM_cons_eq_ok_iff.1 h
    obtain ⟨middle', first', recased'⟩ :=
      recased.step nests (short _ (.head _)) same (caseless.of_foldlM later) first
    obtain ⟨next', later', last⟩ :=
      ih recased' (fun token member => short token (.tail _ member)) later
    exact ⟨next', foldlM_cons_eq_ok_iff.2 ⟨middle', first', later'⟩, last⟩

end Progress

/-- A selector in another case compiles to the same up to case if those inside it do. -/
lemma Query.compile_recased {nested : Nested} {text text' : Text} {base : Nat}
    {condition : Condition} (nests : NestedRecased nested text.length)
    (same : lower text = lower text') (caseless : condition.caseless)
    (h : Query.compile nested ⟨text, base⟩ = .ok condition) :
    ∃ condition', Query.compile nested ⟨text', base⟩ = .ok condition' ∧
      condition'.lower = condition.lower := by
  obtain ⟨tokens, progress, read, folded, finished⟩ := Query.compile_eq_ok_iff.1 h
  have rendering : Rendering .edge base tokens text := rendering_of_start read
  obtain ⟨tokens', recased, rendering'⟩ := rendering.recased same
  obtain ⟨last, complete, rfl⟩ := Progress.finish_eq_ok_iff.1 finished
  have caseless : progress.Caseless := by
    obtain ⟨finished, last⟩ := List.forall_mem_append.1 (Condition.caseless_anyOf.1 caseless)
    exact ⟨finished, complete ▸ last _ (.head _)⟩
  have start : Progress.start.Recased Progress.start := ⟨rfl, .start⟩
  obtain ⟨progress', folded', alike⟩ :=
    start.foldlM nests (short_of_mem_tokens read) recased caseless folded
  obtain ⟨last', complete', lower_eq⟩ := alike.chain.of_complete complete
  refine ⟨_, Query.compile_eq_ok_iff.2 ⟨tokens', progress', rendering'.tokens_eq, folded',
    Progress.finish_eq_ok_iff.2 ⟨last', complete', rfl⟩⟩, ?_⟩
  rw [Condition.lower_anyOf, alike.all lower_eq, Condition.lower_anyOf]

/-- A selector in another case parses to the same up to case, wherever it stands. -/
lemma parseAt_recased {text text' : Text} {base : Nat} {condition : Condition}
    (same : lower text = lower text') (caseless : condition.caseless)
    (h : parseAt text base = .ok condition) :
    ∃ condition', parseAt text' base = .ok condition' ∧ condition'.lower = condition.lower := by
  induction size : text.length using Nat.strongRecOn generalizing text text' base condition with
  | ind n ih =>
    rw [parseAt_eq_compile] at h ⊢
    have nests : NestedRecased parseAt text.length :=
      fun inner inner' offset condition shorter same read caseless =>
        ih inner.length (size ▸ shorter) same caseless read rfl
    exact Query.compile_recased nests same caseless h

end TreeQuery.Selector
