import TreeQuery.Proofs.Selector.Acceptance
import TreeQuery.Proofs.Selector.Joining

/-!
# Renderings

The texts that a list of tokens can be read from.  Every token is written as it is, in order; white
space may be added around a separator that has a character of its own, and at both ends, and nothing
else.  Main statement: `tokens_eq_ok_iff_rendering`.
-/

namespace TreeQuery.Selector

/-! ### How tokens are written -/

/-- White space, possibly none. -/
def Blank (gap : Text) : Prop := ∀ c ∈ gap, Text.isBlank c

/-- An empty text is white space. -/
lemma blank_nil : Blank [] := nofun

/-- Bracketed regions and other characters, none of which ends a compound. -/
inductive CompoundText : Text → Prop where
  | nil : CompoundText []
  | region {brackets : Brackets} {body t : Text} :
    brackets = .round ∨ brackets = .square → Balanced brackets body → CompoundText t →
    CompoundText (brackets.opening :: body ++ [brackets.closing] ++ t)
  | char {c : Char} {t : Text} :
    Text.isBlank c = false → c ∉ ",>+~([".toList → CompoundText t → CompoundText (c :: t)

/-- What white space in a text may stand next to. -/
inductive Side where
  /-- An end of the text. -/
  | edge
  | compound
  /-- A separator with a character of its own. -/
  | mark
  /-- The separator that is white space itself. -/
  | descent
deriving DecidableEq

namespace Side

/-- Whether one may come right after the other: compounds need a separator between them, and descent
stands between two compounds only. -/
def meets : Side → Side → Bool
  | compound, right => right != compound
  | descent, right => right == compound
  | _, right => right != descent

/-- Whether white space may be added next to it. -/
def isLoose : Side → Bool
  | edge | mark => true
  | compound | descent => false

end Side

namespace Token

/-- Where the token starts. -/
def offset : Token → Nat
  | compound _ offset | separator _ offset => offset

/-- What the token is for the white space next to it. -/
def side : Token → Side
  | compound .. => .compound
  | separator (.combinator .descendant) _ => .descent
  | separator .. => .mark

/-- The texts that a token is written as. -/
inductive Writes : Token → Text → Prop where
  | compound {text : Text} {offset : Nat} :
    CompoundText text → text ≠ [] → Writes (.compound text offset) text
  | mark {mark : Separator} {offset : Nat} :
    mark ≠ .combinator .descendant → Writes (.separator mark offset) [mark.toChar]
  | descent {run : Text} {offset : Nat} :
    Blank run → run ≠ [] → Writes (.separator (.combinator .descendant) offset) run

end Token

/-- How tokens are written from byte `offset` on, after what `left` says: one after the other, each
where it says, with white space between them where some may be added. -/
inductive Rendering : (left : Side) → (offset : Nat) → List Token → Text → Prop where
  | nil {left : Side} {offset : Nat} {gap : Text} :
    left.meets .edge → Blank gap → Rendering left offset [] gap
  | cons {left : Side} {offset : Nat} {token : Token} {tokens : List Token}
      {gap written rest : Text} :
    left.meets token.side → Blank gap → (gap ≠ [] → left.isLoose ∨ token.side.isLoose) →
    token.offset = offset + Text.byteLength gap → token.Writes written →
    Rendering token.side (token.offset + Text.byteLength written) tokens rest →
    Rendering left offset (token :: tokens) (gap ++ written ++ rest)

/-! ### Compounds -/

/-- What goes on a compound is neither white space nor one of six characters. -/
lemma goesOn_iff {c : Char} :
    Brackets.ofOpening? c = none ∧ ¬ isStop c ↔
      Text.isBlank c = false ∧ c ∉ ",>+~([".toList := by
  unfold isStop Brackets.ofOpening? Separator.ofChar?
  constructor
  · rintro ⟨plain, goesOn⟩
    split at plain <;> cases plain
    split at goesOn <;> simp_all
  · rintro ⟨visible, plain⟩
    split
    · exact absurd (by decide) plain
    · exact absurd (by decide) plain
    · split <;> simp_all

/-- Compounds hold regions in round and in square brackets. -/
lemma Brackets.ofOpening?_eq_some_iff {c : Char} {brackets : Brackets} :
    ofOpening? c = some brackets ↔
      c = brackets.opening ∧ (brackets = .round ∨ brackets = .square) := by
  constructor
  · intro h
    unfold ofOpening? at h
    split at h <;> cases h
    · exact ⟨rfl, .inl rfl⟩
    · exact ⟨rfl, .inr rfl⟩
  · rintro ⟨rfl, rfl | rfl⟩ <;> rfl

/-- The brackets of selectors are distinct from each other, from the quotes and from the backslash.
-/
lemma Brackets.distinct_of_known {brackets : Brackets}
    (known : brackets = .round ∨ brackets = .square) : brackets.Distinct := by
  rcases known with rfl | rfl
  · exact distinct_round
  · exact distinct_square

namespace Cursor

variable {cursor after : Cursor} {text rest : Text}

/-- A compound is made of regions and other characters, and ends where none can follow. -/
lemma ReadsCompound.compoundText (h : ReadsCompound cursor text after) :
    CompoundText text ∧ Stops after.rest := by
  induction h with
  | nothing stops => exact ⟨.nil, stops⟩
  | region _ opening region _ ih =>
    obtain ⟨-, known⟩ := Brackets.ofOpening?_eq_some_iff.1 opening
    have balanced := balanced_of_region (Brackets.distinct_of_known known) region
    exact ⟨.region known balanced ih.1, ih.2⟩
  | char _ plain goesOn _ ih =>
    obtain ⟨visible, plain⟩ := goesOn_iff.1 ⟨plain, goesOn⟩
    exact ⟨.char visible plain ih.1, ih.2⟩

/-- Moving over nothing stays. -/
lemma past_nil (split : cursor.rest = rest) : cursor.past [] rest = cursor := by
  obtain ⟨offset, rest', afterCompound⟩ := cursor
  cases split
  rfl

/-- Regions and other characters are read as a compound, up to where none can follow. -/
lemma readsCompound_of_compoundText (h : CompoundText text) (stops : Stops rest)
    (split : cursor.rest = text ++ rest) : ReadsCompound cursor text (cursor.past text rest) := by
  induction h generalizing cursor with
  | nil =>
    have ends : cursor.rest = rest := split
    rw [past_nil ends]
    exact .nothing (ends ▸ stops)
  | @region brackets body t known balanced _ ih =>
    have split : cursor.rest = brackets.opening :: body ++ brackets.closing :: (t ++ rest) := by
      simp [split]
    have region := region_of_balanced (Brackets.distinct_of_known known) balanced split
    have later := @ih (cursor.past (brackets.opening :: body ++ [brackets.closing]) (t ++ rest)) rfl
    rw [past_past] at later
    exact .region split (Brackets.ofOpening?_eq_some_iff.2 ⟨rfl, known⟩) region later
  | @char c t visible plain _ ih =>
    obtain ⟨plain, goesOn⟩ := goesOn_iff.2 ⟨visible, plain⟩
    have later := @ih (cursor.past [c] (t ++ rest)) rfl
    rw [past_past] at later
    exact .char split plain goesOn later

/-- Nothing is read where a compound ends. -/
lemma ReadsCompound.eq_of_stops (h : ReadsCompound cursor text after) (stops : Stops cursor.rest) :
    text = [] ∧ after = cursor := by
  cases h with
  | nothing => exact ⟨rfl, rfl⟩
  | @region _ _ _ c _ _ _ _ first opening =>
    cases (ofOpening?_of_isStop (stops c (congrArg List.head? first))).symm.trans opening
  | @char _ _ c _ _ first _ goesOn => exact absurd (stops c (congrArg List.head? first)) goesOn

/-- Regions and other characters belong to the compound that starts with them. -/
lemma ReadsCompound.exists_more {front : Text} (h : ReadsCompound cursor text after)
    (compound : CompoundText front) (split : cursor.rest = front ++ rest) :
    ∃ more, text = front ++ more ∧ ReadsCompound (cursor.past front rest) more after := by
  induction compound generalizing cursor text with
  | nil =>
    have ends : cursor.rest = rest := split
    rw [past_nil ends]
    exact ⟨text, rfl, h⟩
  | @region brackets body t known balanced _ ih =>
    have split : cursor.rest = brackets.opening :: body ++ brackets.closing :: (t ++ rest) := by
      simp [split]
    have opens := Brackets.ofOpening?_eq_some_iff.2 ⟨rfl, known⟩
    have region := region_of_balanced (Brackets.distinct_of_known known) balanced split
    cases h with
    | nothing stops =>
      have stop := stops brackets.opening (congrArg List.head? split)
      cases (ofOpening?_of_isStop stop).symm.trans opens
    | region first opening region' later =>
      cases first.symm.trans split
      cases opening.symm.trans opens
      cases region'.symm.trans region
      obtain ⟨more, rfl, behind⟩ := ih later rfl
      rw [past_past] at behind
      exact ⟨more, (List.append_assoc ..).symm, behind⟩
    | char first plain =>
      cases first.symm.trans split
      cases plain.symm.trans opens
  | @char c t visible plain _ ih =>
    obtain ⟨plain, goesOn⟩ := goesOn_iff.2 ⟨visible, plain⟩
    cases h with
    | nothing stops => exact absurd (stops c (congrArg List.head? split)) goesOn
    | region first opening =>
      cases first.symm.trans split
      cases opening.symm.trans plain
    | char first _ _ later =>
      cases first.symm.trans split
      obtain ⟨more, rfl, behind⟩ := ih later rfl
      rw [past_past] at behind
      exact ⟨more, rfl, behind⟩

end Cursor

/-- A compound starts with a character that ends none. -/
lemma CompoundText.exists_first {text : Text} (h : CompoundText text) (nonempty : text ≠ []) :
    ∃ c t, text = c :: t ∧ ¬ isStop c := by
  cases h with
  | nil => exact absurd rfl nonempty
  | region known =>
    refine ⟨_, _, rfl, ?_⟩
    rcases known with rfl | rfl <;> decide
  | char visible plain => exact ⟨_, _, rfl, (goesOn_iff.2 ⟨visible, plain⟩).2⟩

/-! ### Tokens -/

namespace Cursor

variable {gap rest text : Text} {c : Char} {after : Bool}

/-- White space in front of a visible character is what is skipped. -/
lemma blanks_of_gap (blank : Blank gap) (visible : Text.isBlank c = false) (offset : Nat)
    (rest : Text) (after : Bool) :
    (⟨offset, gap ++ c :: rest, after⟩ : Cursor).blanks =
      (!gap.isEmpty, ⟨offset + Text.byteLength gap, c :: rest, after⟩) := by
  have run : Grammar.Run Text.isBlank gap (c :: rest) :=
    ⟨blank, fun d first => by cases first; exact visible⟩
  unfold blanks
  rw [takeWhile_of_run run rfl]
  rfl

/-- Apart from the descendant one no separator is white space. -/
lemma not_isBlank_toChar {mark : Separator} (own : mark ≠ .combinator .descendant) :
    Text.isBlank mark.toChar = false := by
  rcases mark with _ | (_ | _ | _ | _) <;> first | exact absurd rfl own | decide

/-- Apart from the descendant one the separators end compounds. -/
lemma isStop_toChar {mark : Separator} (own : mark ≠ .combinator .descendant) :
    isStop mark.toChar := by
  simp [isStop, Separator.ofChar?_eq_some_iff.2 ⟨rfl, own⟩]

/-- A separator is read with the white space in front of it, and what is behind it is read as if
nothing came before. -/
lemma tokens_of_mark {mark : Separator} (own : mark ≠ .combinator .descendant) (blank : Blank gap)
    (offset : Nat) :
    (⟨offset, gap ++ mark.toChar :: rest, after⟩ : Cursor).tokens.1 =
      (⟨offset + Text.byteLength gap + Text.byteLength [mark.toChar], rest, false⟩ :
        Cursor).tokens.1.map (.separator mark (offset + Text.byteLength gap) :: ·) := by
  have blanks := blanks_of_gap blank (not_isBlank_toChar own) offset rest after
  have known : Separator.ofChar? mark.toChar = some mark :=
    Separator.ofChar?_eq_some_iff.2 ⟨rfl, own⟩
  have next : ReadsToken ⟨offset, gap ++ mark.toChar :: rest, after⟩ _ _ :=
    .separator (by rw [blanks]) known
  rw [tokens_of_next (next_eq_some_iff.2 next), blanks]
  exact congrArg _ (@tokens_blanks
    ⟨offset + Text.byteLength gap + Text.byteLength [mark.toChar], rest, false⟩ rfl)

/-- White space after a compound is a token where another compound follows. -/
lemma tokens_of_descent (blank : Blank gap) (nonempty : gap ≠ []) (goesOn : ¬ isStop c)
    (offset : Nat) :
    (⟨offset, gap ++ c :: rest, true⟩ : Cursor).tokens.1 =
      (⟨offset + Text.byteLength gap, c :: rest, false⟩ : Cursor).tokens.1.map
        (.separator (.combinator .descendant) offset :: ·) := by
  obtain ⟨visible, plain⟩ := not_isStop_iff.1 goesOn
  have blanks := blanks_of_gap blank visible offset rest true
  have next : ReadsToken ⟨offset, gap ++ c :: rest, true⟩ _ _ :=
    .descendant (by rw [blanks]) plain (by rw [blanks]; simpa using nonempty)
  rw [tokens_of_next (next_eq_some_iff.2 next), blanks]

/-- A compound is read to its end, unless the white space in front of it is a token of its own. -/
lemma tokens_of_compound (compound : CompoundText text) (nonempty : text ≠ []) (stops : Stops rest)
    (blank : Blank gap) (apart : gap ≠ [] → after = false) (offset : Nat) :
    (⟨offset, gap ++ text ++ rest, after⟩ : Cursor).tokens.1 =
      (⟨offset + Text.byteLength gap + Text.byteLength text, rest, true⟩ : Cursor).tokens.1.map
        (.compound text (offset + Text.byteLength gap) :: ·) := by
  have read : ReadsCompound ⟨offset + Text.byteLength gap, text ++ rest, after⟩ text _ :=
    readsCompound_of_compoundText compound stops rfl
  obtain ⟨c, t, rfl, goesOn⟩ := compound.exists_first nonempty
  obtain ⟨visible, plain⟩ := not_isStop_iff.1 goesOn
  have blanks := blanks_of_gap blank visible offset (t ++ rest) after
  have next : ReadsToken ⟨offset, gap ++ c :: (t ++ rest), after⟩ _ _ :=
    .compound (by rw [blanks]) plain (by rw [blanks]; simpa using apart)
      (by rw [blanks]; exact compound_eq_ok_iff.2 read)
  rw [List.append_assoc, List.cons_append, tokens_of_next (next_eq_some_iff.2 next), blanks]
  rfl

end Cursor

/-! ### Renderings -/

/-- White space ends a compound in front of it. -/
lemma stops_of_blank {gap rest : Text} (blank : Blank gap) (nonempty : gap ≠ []) :
    Stops (gap ++ rest) := by
  obtain ⟨c, t, rfl⟩ := List.exists_cons_of_ne_nil nonempty
  intro d first
  cases first
  exact isStop_of_isBlank (blank c (.head _))

/-- A separator ends a compound in front of it, whatever white space stands around. -/
lemma stops_of_mark {mark : Separator} {gap rest : Text} (own : mark ≠ .combinator .descendant)
    (blank : Blank gap) : Stops (gap ++ mark.toChar :: rest) := by
  by_cases tight : gap = []
  · subst tight
    intro c first
    cases first
    exact Cursor.isStop_toChar own
  · exact stops_of_blank blank tight

/-- Apart from the descendant one a separator is a mark on both sides. -/
lemma Token.side_mark {mark : Separator} (own : mark ≠ .combinator .descendant) (offset : Nat) :
    (Token.separator mark offset).side = .mark := by
  rcases mark with _ | (_ | _ | _ | _) <;> first | exact absurd rfl own | rfl

/-- What follows in a text: after a compound something that cannot be taken for a part of it, and
after descent a compound. -/
structure Follows (left : Side) (t : Text) : Prop where
  stops : left = .compound → Stops t
  goesOn : left = .descent → ∃ c rest, t = c :: rest ∧ ¬ isStop c

variable {left : Side} {offset : Nat} {tokens : List Token} {t : Text}

/-- Anything may follow the start. -/
lemma follows_edge : Follows .edge t := ⟨nofun, nofun⟩

/-- A text that ends compounds may follow one. -/
lemma follows_compound (stops : Stops t) : Follows .compound t := ⟨fun _ => stops, nofun⟩

/-- Anything may follow a mark. -/
lemma follows_mark : Follows .mark t := ⟨nofun, nofun⟩

/-- Only a compound may follow a descendant separator. -/
lemma follows_descent {c : Char} (goesOn : ¬ isStop c) : Follows .descent (c :: t) :=
  ⟨nofun, fun _ => ⟨c, t, rfl, goesOn⟩⟩

/-- What follows a token in a rendering cannot be taken for a part of it. -/
lemma Rendering.follows (h : Rendering left offset tokens t) : Follows left t := by
  cases h with
  | nil meets blank =>
    refine ⟨fun _ c first => ?_, ?_⟩
    · exact isStop_of_isBlank (blank c (List.mem_of_mem_head? first))
    · rintro rfl
      cases meets
  | @cons _ _ token _ gap written rest meets blank loose _ writes _ =>
    constructor
    · rintro rfl
      rw [List.append_assoc]
      cases writes with
      | compound => cases meets
      | mark own => exact stops_of_mark own blank
      | @descent run _ blank' nonempty =>
        rw [← List.append_assoc]
        exact stops_of_blank (List.forall_mem_append.2 ⟨blank, blank'⟩) (by simp [nonempty])
    · rintro rfl
      have compound : token.side = .compound := eq_of_beq meets
      have tight : gap = [] := by
        by_contra wide
        have added := loose wide
        rw [compound] at added
        rcases added with added | added <;> cases added
      cases writes with
      | compound text nonempty =>
        obtain ⟨c, t, rfl, goesOn⟩ := text.exists_first nonempty
        exact ⟨c, t ++ rest, by rw [tight]; rfl, goesOn⟩
      | mark own =>
        rw [Token.side_mark own] at compound
        cases compound
      | descent => cases compound

/-- The tokens of a rendering are read from it. -/
lemma Rendering.tokens_eq (h : Rendering left offset tokens t) :
    (⟨offset, t, left == .compound⟩ : Cursor).tokens.1 = .ok tokens := by
  induction h with
  | nil _ blank => exact Cursor.tokens_eq_nil_iff.2 (List.dropWhile_eq_nil_iff.2 blank)
  | @cons left offset token tokens gap written rest meets blank loose place writes later ih =>
    cases writes with
    | @compound text o compound nonempty =>
      have apart : gap ≠ [] → (left == .compound) = false := by
        intro wide
        cases left with
        | compound => cases meets
        | _ => rfl
      rw [Cursor.tokens_of_compound compound nonempty (later.follows.stops rfl) blank apart,
        ← show o = offset + Text.byteLength gap from place]
      exact map_eq_ok_iff.2 ⟨tokens, ih, rfl⟩
    | @mark mark o own =>
      rw [Token.side_mark own] at ih
      rw [List.append_assoc, List.singleton_append, Cursor.tokens_of_mark own blank,
        ← show o = offset + Text.byteLength gap from place]
      exact map_eq_ok_iff.2 ⟨tokens, ih, rfl⟩
    | @descent run o blank' nonempty =>
      obtain ⟨c, rest', rfl, goesOn⟩ := later.follows.goesOn rfl
      have compound : left = .compound := by
        cases left with
        | compound => rfl
        | _ => cases meets
      subst compound
      have tight : gap = [] := by
        by_contra wide
        rcases loose wide with added | added <;> cases added
      subst tight
      have place : o = offset := place
      subst place
      rw [List.nil_append]
      refine (Cursor.tokens_of_descent blank' nonempty goesOn _).trans ?_
      exact map_eq_ok_iff.2 ⟨tokens, ih, rfl⟩

/-- The compounds of a rendering are made as compounds are. -/
lemma Rendering.compoundText {text : Text} {o : Nat} (h : Rendering left offset tokens t)
    (member : .compound text o ∈ tokens) : CompoundText text := by
  induction h with
  | nil => cases member
  | cons _ _ _ _ writes _ ih =>
    rcases List.mem_cons.1 member with rfl | member
    · cases writes
      assumption
    · exact ih member

/-- After descent there is no more white space, and no separator. -/
lemma Follows.descent {gap rest : Text} {c : Char}
    (follows : Follows .descent (gap ++ c :: rest)) (blank : Blank gap) :
    gap = [] ∧ ¬ isStop c := by
  obtain ⟨d, rest', split, goesOn⟩ := follows.goesOn rfl
  cases gap with
  | nil =>
    cases split
    exact ⟨rfl, goesOn⟩
  | cons _ gap =>
    cases split
    exact absurd (isStop_of_isBlank (blank d (.head _))) goesOn

/-- White space in front of something else, set apart. -/
lemma exists_gap {c : Char} {rest : Text} (first : t.dropWhile Text.isBlank = c :: rest) :
    ∃ gap, t = gap ++ c :: rest ∧ Blank gap := by
  refine ⟨t.takeWhile Text.isBlank, ?_, fun d member => List.mem_takeWhile_imp member⟩
  rw [← first, List.takeWhile_append_dropWhile]

/-- Where tokens are read from, they are rendered. -/
lemma rendering_of_tokens (follows : Follows left t)
    (h : (⟨offset, t, left == .compound⟩ : Cursor).tokens.1 = .ok tokens) :
    Rendering left offset tokens t := by
  induction tokens generalizing left offset t with
  | nil =>
    have blank : Blank t := List.dropWhile_eq_nil_iff.1 (Cursor.tokens_eq_nil_iff.1 h)
    refine .nil ?_ blank
    cases left with
    | descent =>
      obtain ⟨c, rest, rfl, goesOn⟩ := follows.goesOn rfl
      exact absurd (isStop_of_isBlank (blank c (.head _))) goesOn
    | _ => rfl
  | cons token tokens ih =>
    obtain ⟨after, next, -⟩ := Cursor.exists_next_of_tokens h
    cases Cursor.next_eq_some_iff.1 next with
    | @separator c rest mark first known =>
      obtain ⟨gap, rfl, blank⟩ := exists_gap first
      obtain ⟨rfl, own⟩ := Separator.ofChar?_eq_some_iff.1 known
      have meets : left.meets .mark := by
        cases left with
        | descent => exact absurd (by simp [isStop, known]) (follows.descent blank).2
        | _ => rfl
      rw [Cursor.tokens_of_mark own blank] at h
      obtain ⟨later, read, e⟩ := map_eq_ok_iff.1 h
      obtain ⟨place, rfl⟩ := List.cons.inj e
      have rendering := @ih .mark _ _ follows_mark read
      rw [← place, List.append_cons]
      rw [← Token.side_mark own (offset + Text.byteLength gap)] at meets rendering
      exact .cons meets blank (fun _ => .inr (by rw [Token.side_mark own]; rfl)) rfl (.mark own)
        rendering
    | @descendant c rest first plain descends =>
      obtain ⟨gap, rfl, blank⟩ := exists_gap first
      have visible := Cursor.blanks_stop first
      rw [Cursor.blanks_of_gap blank visible] at descends
      obtain ⟨nonempty, compound⟩ : gap ≠ [] ∧ left = .compound := by simpa using descends
      subst compound
      have goesOn : ¬ isStop c := not_isStop_iff.2 ⟨visible, plain⟩
      replace h := (Cursor.tokens_of_descent blank nonempty goesOn offset).symm.trans h
      obtain ⟨later, read, e⟩ := map_eq_ok_iff.1 h
      obtain ⟨place, rfl⟩ := List.cons.inj e
      have rendering := @ih .descent _ _ (follows_descent goesOn) read
      rw [← place, ← List.nil_append gap]
      exact .cons rfl blank_nil (absurd rfl) rfl (.descent blank nonempty) rendering
    | @compound c rest text last first plain stays read =>
      obtain ⟨gap, rfl, blank⟩ := exists_gap first
      have visible := Cursor.blanks_stop first
      rw [Cursor.blanks_of_gap blank visible] at stays read
      obtain ⟨compound, stops⟩ := (Cursor.compound_eq_ok_iff.1 read).compoundText
      have nonempty := Cursor.compound_ne_nil read rfl visible plain
      have apart : gap ≠ [] → (left == .compound) = false := by simpa using stays
      have split : c :: rest = text ++ last.rest := (Cursor.compound_reads read).rest_eq
      rw [split, ← List.append_assoc] at h ⊢
      rw [Cursor.tokens_of_compound compound nonempty stops blank apart] at h
      obtain ⟨later, read, e⟩ := map_eq_ok_iff.1 h
      obtain ⟨place, rfl⟩ := List.cons.inj e
      have rendering := @ih .compound _ _ (follows_compound stops) read
      rw [← place]
      refine .cons ?_ blank ?_ rfl (.compound compound nonempty) rendering
      · cases left with
        | compound =>
          -- White space would be a token here, and without it the first compound would go on.
          have tight : gap = [] := by
            by_contra wide
            cases apart wide
          subst tight
          exact absurd (follows.stops rfl c rfl) (not_isStop_iff.2 ⟨visible, plain⟩)
        | _ => rfl
      · intro wide
        cases left with
        | compound => cases apart wide
        | descent => exact absurd (follows.descent blank).1 wide
        | _ => exact .inl rfl

/-- What is read from the start is a rendering of its tokens. -/
lemma rendering_of_start {base : Nat} (h : (Cursor.start base t).tokens.1 = .ok tokens) :
    Rendering .edge base tokens t :=
  rendering_of_tokens follows_edge h

/-- A text is split into tokens if it is written as these tokens, and into no others. -/
theorem tokens_eq_ok_iff_rendering (base : Nat) (s : Text) (tokens : List Token) :
    (Cursor.start base s).tokens.1 = .ok tokens ↔ Rendering .edge base tokens s :=
  ⟨@rendering_of_tokens .edge base tokens s ⟨nofun, nofun⟩, Rendering.tokens_eq⟩

end TreeQuery.Selector
