import TreeQuery.Pattern.Basic
import TreeQuery.Proofs.Selector.Rendering

/-!
# Compounds in a row

A compound that starts with the mark of a simple selector may be written right after another one.
Together they are a single compound that asks for what both ask for, and the errors of the second
one are found as far to the right as the first one is long.  Main statement: `parse_append`.
-/

namespace TreeQuery.Selector

/-! ### Tokens -/

/-- Two compounds one behind the other are written as a compound is. -/
lemma CompoundText.append {s t : Text} (h : CompoundText s) (h' : CompoundText t) :
    CompoundText (s ++ t) := by
  induction h with
  | nil => exact h'
  | region known balanced _ ih =>
    rw [List.append_assoc]
    exact .region known balanced ih
  | char visible plain _ ih => exact .char visible plain ih

/-- A single region. -/
lemma CompoundText.of_balanced {brackets : Brackets} {body : Text}
    (known : brackets = .round ∨ brackets = .square) (balanced : Balanced brackets body) :
    CompoundText (brackets.opening :: body ++ [brackets.closing]) := by
  have region : CompoundText (brackets.opening :: body ++ [brackets.closing] ++ []) :=
    .region known balanced .nil
  rwa [List.append_nil] at region

/-- Characters that neither open a region nor end a compound. -/
lemma CompoundText.of_chars {run : Text}
    (plain : ∀ c ∈ run, Text.isBlank c = false ∧ c ∉ ",>+~([".toList) : CompoundText run := by
  induction run with
  | nil => exact .nil
  | cons c run ih =>
    obtain ⟨here, later⟩ := List.forall_mem_cons.1 plain
    exact .char here.1 here.2 (ih later)

namespace Cursor

variable {base offset : Nat} {written text : Text}

/-- What is read as a compound is made as compounds are. -/
lemma compoundText_of_tokens (h : (start base written).tokens.1 = .ok [.compound text offset]) :
    CompoundText text ∧ text ≠ [] := by
  have rendering : Rendering .edge base [.compound text offset] written :=
    rendering_of_start h
  exact ⟨rendering.compoundText (.head _), ne_nil_of_mem_tokens h (.head _)⟩

/-- A text is a single token, from its first character to its last, if it is made as compounds are.
-/
lemma tokens_eq_compound_iff :
    (start base text).tokens.1 = .ok [.compound text base] ↔ CompoundText text ∧ text ≠ [] := by
  refine ⟨compoundText_of_tokens, fun h => ?_⟩
  have rendering : Rendering .edge base [.compound text base] ([] ++ text ++ []) :=
    .cons rfl nofun (absurd rfl) rfl (.compound h.1 h.2) (.nil rfl nofun)
  rw [List.nil_append, List.append_nil] at rendering
  exact rendering.tokens_eq

end Cursor

/-! ### Simple selectors -/

/-- What simple selectors start with, tags apart. -/
def simpleMarks : Text := "#.[:*".toList

/-- A text that goes on with the mark of a simple selector, if at all. -/
def Marked (v : Text) : Prop := ∀ c ∈ v.head?, c ∈ simpleMarks

instance (v : Text) : Decidable (Marked v) :=
  decidable_of_iff (v.head?.all (· ∈ simpleMarks)) (by simp [Marked, Option.all_eq_true])

/-- A text that is no part of a simple selector before it: neither of its name nor, as an argument,
of its pseudo-class. -/
def Detached (v : Text) : Prop := ∀ c ∈ v.head?, isTagChar c = false ∧ c ≠ '('

/-- The mark of a simple selector is no part of what stands before it. -/
lemma Marked.detached {v : Text} (marked : Marked v) : Detached v := by
  intro c first
  have solid : simpleMarks.all fun c => !isTagChar c && c != '(' := by decide
  simpa using List.all_eq_true.1 solid c (marked c first)

/-- A run of characters of names or tags ends in front of it. -/
lemma Detached.takeWhile_eq_nil {v : Text} {p : Char → Bool} (detached : Detached v)
    (covered : ∀ c, p c → isTagChar c) : v.takeWhile p = [] := by
  cases v with
  | nil => rfl
  | cons c v =>
    have ends : ¬ p c := fun taken => by simpa [(detached c rfl).1] using covered c taken
    exact List.takeWhile_cons_of_neg ends

/-- The characters of names are characters of tags. -/
lemma isTagChar_of_isNameChar {c : Char} (h : isNameChar c) : isTagChar c :=
  Bool.or_eq_true_iff.2 (.inl h)

section

variable [PatternEngine]

namespace Compound

variable {nested : Nested} {cursor after : Cursor} {condition : Condition} {v : Text}

/-- A simple selector is read as before if what follows is no part of it. -/
lemma ReadsSimple.followedBy (h : ReadsSimple nested cursor condition after)
    (detached : Detached v) :
    ReadsSimple nested (cursor.followedBy v) condition (after.followedBy v) := by
  have run {p : Char → Bool} {front last : Cursor} {run : Text}
      (covered : ∀ c, p c → isTagChar c) (read : front.takeWhile p = (run, last)) :
      (front.followedBy v).takeWhile p = (run, last.followedBy v) := by
    rw [Cursor.takeWhile_followedBy (.inr (detached.takeWhile_eq_nil covered)), read]
  have name {front last : Cursor} {name : Text} :
      front.name = (name, last) → _ :=
    @run isNameChar front last name fun _ => isTagChar_of_isNameChar
  have tag {front last : Cursor} {tag : Text} :
      front.tag = (tag, last) → _ := @run isTagChar front last tag fun _ taken => taken
  cases h with
  | id first read named => exact .id (Cursor.rest_followedBy first _) (name read) named
  | hasClass first read named => exact .hasClass (Cursor.rest_followedBy first _) (name read) named
  | universal first read => exact .universal (Cursor.rest_followedBy first _) (tag read)
  | universalTag first read named =>
    exact .universalTag (Cursor.rest_followedBy first _) (tag read) named
  | attributeTest first region read =>
    exact .attributeTest (Cursor.rest_followedBy first _) (Cursor.region_followedBy region _) read
  | plain first read named bare compiled =>
    refine .plain (Cursor.rest_followedBy first _) (name read) named ?_ compiled
    obtain ⟨offset, rest, afterCompound⟩ := after
    cases rest with
    | nil =>
      intro opens
      exact (detached '(' opens).2 rfl
    | cons => exact bare
  | call first read named region compiled =>
    exact .call (Cursor.rest_followedBy first _) (name read) named
      (Cursor.region_followedBy region _) compiled
  | tag first letter read => exact .tag (Cursor.rest_followedBy first _) letter (tag read)

/-- What has been read before a simple selector is remembered behind it. -/
lemma ReadsSimple.afterCompound_eq (h : ReadsSimple nested cursor condition after) :
    after.afterCompound = cursor.afterCompound := by
  have run {front last : Cursor} {run : Text} (p : Char → Bool)
      (read : front.takeWhile p = (run, last)) : last.afterCompound = front.afterCompound := by
    obtain ⟨-, rfl⟩ := Prod.mk.inj read
    rfl
  have region {brackets : Brackets} {front : Cursor} {body : Text}
      (read : front.region brackets = (.ok body, after)) :
      after.afterCompound = front.afterCompound := by
    obtain ⟨_, _, -, -, rfl⟩ := Cursor.region_eq_ok_iff.1 read
    rfl
  cases h with
  | id _ read | hasClass _ read | plain _ read => exact (run isNameChar read).trans rfl
  | universal _ read | universalTag _ read => exact (run isTagChar read).trans rfl
  | attributeTest _ read => exact region read
  | call _ read _ argument => exact (region argument).trans ((run isNameChar read).trans rfl)
  | tag _ _ read => exact run isTagChar read

/-- Simple selectors up to the end of a text are read as before if what follows is no part of them,
and it is read after them. -/
lemma simples_followedBy {conditions : List Condition} (h : simples nested cursor = .ok conditions)
    (detached : Detached v) :
    simples nested (cursor.followedBy v) =
      (simples nested (cursor.past cursor.rest v)).map (conditions ++ ·) := by
  induction conditions generalizing cursor with
  | nil =>
    have ended := simples_eq_nil_iff.1 h
    have here : cursor.followedBy v = cursor.past cursor.rest v := by
      rw [Cursor.followedBy, Cursor.past, ended]
      rfl
    rw [here]
    cases simples nested (cursor.past cursor.rest v) <;> rfl
  | cons condition conditions ih =>
    obtain ⟨after, reads, later⟩ := exists_readsSimple_of_simples h
    -- Wherever the first selector ends, the last one ends with the text.
    obtain ⟨taken, split⟩ := reads.reads
    have ends : after.past after.rest v = cursor.past cursor.rest v := by
      simp [Cursor.past, reads.afterCompound_eq, split.rest_eq, split.offset_eq, Nat.add_assoc]
    rw [simples_of_readsSimple (reads.followedBy detached), ih later, ends]
    cases simples nested (cursor.past cursor.rest v) <;> rfl

variable {left right : Text} {conditions : List Condition}

/-- The simple selectors of two compounds in a row are those of the one and then those of the other,
which are read on their own. -/
lemma simples_append (h : simples parseAt (.start 0 left) = .ok conditions)
    (detached : Detached right) :
    simples parseAt (.start 0 (left ++ right)) =
      ((simples parseAt (.start 0 right)).map (conditions ++ ·)).mapError
        (.shift (Text.byteLength left)) := by
  have moved : simples parseAt ((Cursor.start 0 right).shift (Text.byteLength left)) =
      (simples parseAt (.start 0 right)).mapError (.shift (Text.byteLength left)) :=
    simples_shift (fun inner offset _ => parseAt_shift inner _ offset) (Nat.le_refl _)
  have place : (Cursor.start 0 left).past left right =
      (Cursor.start 0 right).shift (Text.byteLength left) := by
    simp [Cursor.past, Cursor.shift, Cursor.start]
  refine (simples_followedBy h detached).trans ?_
  rw [show (Cursor.start 0 left).rest = left from rfl, place, moved]
  cases simples parseAt (.start 0 right) <;> rfl

end Compound

/-! ### Selectors -/

/-- A text that is made as compounds are, and reads as the given simple selectors. -/
structure Spells (text : Text) (conditions : List Condition) : Prop where
  compound : CompoundText text
  simples : Compound.simples parseAt (.start 0 text) = .ok conditions

namespace Spells

variable {text left right : Text} {conditions conditions' : List Condition}

/-- An empty text spells no simple selectors. -/
lemma nil : Spells [] [] := ⟨.nil, Compound.simples_eq_nil_iff.2 rfl⟩

/-- Two compounds spell their simple selectors one after the other, if the second one is marked. -/
lemma append (h : Spells left conditions) (h' : Spells right conditions') (marked : Marked right) :
    Spells (left ++ right) (conditions ++ conditions') where
  compound := h.compound.append h'.compound
  simples := by
    rw [Compound.simples_append h.simples marked.detached, h'.simples]
    rfl

/-- Only an empty text spells no simple selectors. -/
lemma eq_nil_iff (h : Spells text conditions) : text = [] ↔ conditions = [] := by
  have none : Compound.simples parseAt (.start 0 text) = .ok [] ↔ text = [] :=
    Compound.simples_eq_nil_iff
  rw [← none, h.simples, Except.ok.injEq]

/-- A compound means that all of its simple selectors hold. -/
lemma parse_eq (h : Spells text conditions) (nonempty : conditions ≠ []) :
    parse text = .ok (.allOf conditions) := by
  rw [parse_of_tokens (Cursor.tokens_eq_compound_iff.2 ⟨h.compound, mt h.eq_nil_iff.1 nonempty⟩)]
  exact Compound.read_eq_ok_iff.2 ⟨conditions, h.simples, rfl⟩

/-- A compound that means something spells the leaves of its condition. -/
lemma of_parse {condition : Condition}
    (whole : (Cursor.start 0 text).tokens.1 = .ok [.compound text 0])
    (parsed : parse text = .ok condition) : Spells text condition.leaves := by
  rw [parse_of_tokens whole] at parsed
  obtain ⟨conditions, simples, rfl⟩ := Compound.read_eq_ok_iff.1 parsed
  rw [Condition.leaves_allOf (Compound.simples_isSimple simples)]
  exact ⟨(Cursor.compoundText_of_tokens whole).1, simples⟩

end Spells

/-- Two compounds in a row, of which the second one starts with a mark, are parsed as one compound
with the parts of both.  If the second one is refused, they are refused for the same reason, as far
to the right as the first one is long. -/
theorem parse_append {left right : Text} {before : Condition}
    (whole : (Cursor.start 0 left).tokens.1 = .ok [.compound left 0])
    (parsed : parse left = .ok before)
    (whole' : (Cursor.start 0 right).tokens.1 = .ok [.compound right 0])
    (marked : Marked right) :
    parse (left ++ right) =
      ((parse right).map fun condition => .all (before.leaves ++ condition.leaves)).mapError
        (.shift (Text.byteLength left)) := by
  have front := Spells.of_parse whole parsed
  obtain ⟨-, nonempty⟩ := Cursor.tokens_eq_compound_iff.1 whole
  obtain ⟨compound, nonempty'⟩ := Cursor.tokens_eq_compound_iff.1 whole'
  cases parsed' : parse right with
  | ok condition =>
    have back := Spells.of_parse whole' parsed'
    have parts := mt front.eq_nil_iff.2 nonempty
    have both := front.append back marked
    rw [both.parse_eq (List.append_ne_nil_of_left_ne_nil parts _),
      Condition.allOf_append parts (mt back.eq_nil_iff.2 nonempty')]
    rfl
  | error e =>
    have refused := map_eq_error_iff.1 ((parse_of_tokens whole').symm.trans parsed')
    have together : (Cursor.start 0 (left ++ right)).tokens.1 = .ok [.compound (left ++ right) 0] :=
      Cursor.tokens_eq_compound_iff.2 ⟨front.compound.append compound,
        List.append_ne_nil_of_left_ne_nil nonempty right⟩
    rw [parse_of_tokens together, Compound.read,
      Compound.simples_append front.simples marked.detached, refused]
    rfl

end

attribute [local instance] Pattern.engine

/-- After a pseudo-class without an argument, behind a character of more than one byte, two parts
that mean something and two of which the second one is unknown. -/
theorem parse_append_marked :
    ∃ before after, parse "ol[ä]:first-child".toList = .ok before ∧
      parse "*|b:not(.c, #d)".toList = .ok after ∧
      parse "ol[ä]:first-child*|b:not(.c, #d)".toList = .ok (.all (before.leaves ++ after.leaves)) ∧
      parse "#a:frob(b)".toList = .error ⟨.unknownPseudoClass "frob".toList, 2⟩ ∧
      parse "ol[ä]:first-child#a:frob(b)".toList =
        .error ⟨.unknownPseudoClass "frob".toList, 20⟩ := by
  have whole : (Cursor.start 0 "ol[ä]:first-child".toList).tokens.1 =
      .ok [.compound "ol[ä]:first-child".toList 0] := by decide +kernel
  have known : (Cursor.start 0 "*|b:not(.c, #d)".toList).tokens.1 =
      .ok [.compound "*|b:not(.c, #d)".toList 0] := by decide +kernel
  have unknown : (Cursor.start 0 "#a:frob(b)".toList).tokens.1 =
      .ok [.compound "#a:frob(b)".toList 0] := by decide +kernel
  obtain ⟨before, parsed⟩ := isOk_iff.1 (show (parse "ol[ä]:first-child".toList).isOk by
    decide +kernel)
  obtain ⟨after, accepted⟩ := isOk_iff.1 (show (parse "*|b:not(.c, #d)".toList).isOk by
    decide +kernel)
  have refused : (parse "#a:frob(b)".toList).map (fun _ => ()) =
      .error ⟨.unknownPseudoClass "frob".toList, 2⟩ := by decide +kernel
  have refused := map_eq_error_iff.1 refused
  refine ⟨before, after, parsed, accepted, ?_, refused, ?_⟩
  · refine (parse_append whole parsed known (by decide)).trans ?_
    rw [accepted]
    rfl
  · refine (parse_append whole parsed unknown (by decide)).trans ?_
    rw [refused]
    rfl

end TreeQuery.Selector
