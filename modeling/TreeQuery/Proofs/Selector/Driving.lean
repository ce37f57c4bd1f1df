import TreeQuery.Proofs.Selector.Counting
import TreeQuery.Proofs.Selector.Places

/-!
# Driving a cursor

A cursor may be asked for anything in any order, and it may be asked again after a call that failed.
Wherever it comes to lies between two characters of the text it was started on, and it never goes
back.  What a call answers is the part of the text that the cursor moved over, so it can be cut out
of the text at the offsets before and after the call.  Main statement: `run_sound`.
-/

namespace TreeQuery

/-! ### Slices -/

namespace Text

/-- The two parts of a text before and after a byte offset, unless this lies inside a character or
behind the end. -/
def splitBytes? : Nat → Text → Option (Text × Text)
  | 0, t => some ([], t)
  | _ + 1, [] => none
  | n + 1, c :: t =>
    if c.utf8Size ≤ n + 1 then
      (splitBytes? (n + 1 - c.utf8Size) t).map fun (before, after) => (c :: before, after)
    else none

/-- The part of a text between two byte offsets, unless one of them lies inside a character or
behind the end, or they are in the wrong order. -/
def slice? (start stop : Nat) (t : Text) : Option Text :=
  if start ≤ stop then
    (splitBytes? start t).bind fun (_, later) => (splitBytes? (stop - start) later).map (·.1)
  else none

variable {t before after whole : Text} {n start stop : Nat}

/-- A text is split where a front part of it ends. -/
lemma splitBytes?_append (before after : Text) :
    splitBytes? (byteLength before) (before ++ after) = some (before, after) := by
  induction before with
  | nil => rw [byteLength_nil, List.nil_append, splitBytes?]
  | cons c before ih =>
    obtain ⟨n, size⟩ := Nat.exists_eq_add_one_of_ne_zero c.utf8Size_pos.ne'
    have length : byteLength (c :: before) = n + byteLength before + 1 := by
      rw [byteLength_cons, size]
      omega
    have later : n + byteLength before + 1 - c.utf8Size = byteLength before := by omega
    rw [length, List.cons_append, splitBytes?, if_pos (by omega), later, ih]
    rfl

/-- A text is split between its characters only, and the offset is the size of the first part. -/
lemma splitBytes?_eq_some_iff :
    splitBytes? n t = some (before, after) ↔ t = before ++ after ∧ n = byteLength before := by
  constructor
  · intro h
    fun_induction splitBytes? n t generalizing before with
    | case1 t =>
      cases h
      exact ⟨rfl, rfl⟩
    | case2 => cases h
    | case3 n c t fits ih =>
      obtain ⟨⟨front, _⟩, split, e⟩ := Option.map_eq_some_iff.1 h
      cases e
      obtain ⟨rfl, size⟩ := ih split
      refine ⟨rfl, ?_⟩
      rw [byteLength_cons, ← size]
      omega
    | case4 => cases h
  · rintro ⟨rfl, rfl⟩
    exact splitBytes?_append before after

/-- A slice is what stands at its first offset, up to its second one. -/
lemma slice?_eq_some_iff :
    slice? start stop whole = some t ↔ StandsAt t start whole ∧ stop = start + byteLength t := by
  constructor
  · intro h
    unfold slice? at h
    split at h
    · rename_i ordered
      obtain ⟨⟨before, later⟩, front, h⟩ := Option.bind_eq_some_iff.1 h
      obtain ⟨⟨_, after⟩, inside, rfl⟩ := Option.map_eq_some_iff.1 h
      obtain ⟨rfl, rfl⟩ := splitBytes?_eq_some_iff.1 front
      obtain ⟨rfl, size⟩ := splitBytes?_eq_some_iff.1 inside
      refine ⟨⟨before, after, (List.append_assoc ..).symm, rfl⟩, ?_⟩
      rw [← size, Nat.add_sub_cancel' ordered]
    · cases h
  · rintro ⟨⟨before, after, rfl, rfl⟩, rfl⟩
    rw [slice?, if_pos (Nat.le_add_right _ _), List.append_assoc, splitBytes?_append,
      Option.bind_some]
    dsimp only
    rw [Nat.add_sub_cancel_left, splitBytes?_append]
    rfl

/-- A character takes at least one byte. -/
lemma length_le_byteLength (t : Text) : t.length ≤ byteLength t := by
  induction t with
  | nil => exact Nat.le_refl 0
  | cons c t ih =>
    have size := c.utf8Size_pos
    rw [List.length_cons, byteLength_cons]
    omega

end Text

namespace Selector
open Text (StandsAt)

/-! ### Calls -/

/-- What a cursor may be asked for. -/
inductive Call where
  | peek
  | advance
  /-- All that is still to be read, which stays unread. -/
  | remainder
  | blanks
  | takeWhile (p : Char → Bool)
  | name
  | tag
  | region (brackets : Brackets)
  | next
  | tokens

namespace Cursor

/-- The cursor after a call, also after one that fails. -/
def call (cursor : Cursor) : Call → Cursor
  | .peek | .remainder => cursor
  | .advance => cursor.advance.2
  | .blanks => cursor.blanks.2
  | .takeWhile p => (cursor.takeWhile p).2
  | .name => cursor.name.2
  | .tag => cursor.tag.2
  | .region brackets => (cursor.region brackets).2
  | .next => cursor.next.2
  | .tokens => cursor.tokens.2

/-- The cursor after several calls. -/
def run (cursor : Cursor) (calls : List Call) : Cursor := calls.foldl call cursor

variable {cursor after : Cursor} {brackets : Brackets} {e : Error}

/-! ### What calls move over -/

/-- The cursor is moved over some part of what was left. -/
def Moves (cursor after : Cursor) : Prop := ∃ taken, Reads cursor taken after

/-- Two moves are one move over both parts. -/
lemma Moves.trans {a b c : Cursor} (h : Moves a b) (h' : Moves b c) : Moves a c := by
  obtain ⟨s, first⟩ := h
  obtain ⟨t, second⟩ := h'
  exact ⟨s ++ t, first.trans second⟩

/-- What was read last does not matter. -/
lemma Moves.afterCompound (h : Moves cursor after) (b : Bool) :
    Moves cursor { after with afterCompound := b } := by
  obtain ⟨taken, reads⟩ := h
  exact ⟨taken, reads.rest_eq, reads.offset_eq⟩

/-- A cursor that stays moves over nothing. -/
lemma moves_refl (cursor : Cursor) : Moves cursor cursor := ⟨[], .refl cursor⟩

/-- Taking characters moves the cursor over them. -/
lemma moves_takeWhile (p : Char → Bool) (cursor : Cursor) : Moves cursor (cursor.takeWhile p).2 :=
  ⟨_, takeWhile_reads p cursor⟩

/-- Advancing moves the cursor over one character, or it stays at the end. -/
lemma moves_advance (cursor : Cursor) : Moves cursor cursor.advance.2 := by
  unfold advance
  split
  · exact moves_refl cursor
  · rename_i c rest first
    exact ⟨[c], .past first⟩

/-- A region that is refused is left where it starts or at the end of the text. -/
lemma moves_region (brackets : Brackets) (cursor : Cursor) :
    Moves cursor (cursor.region brackets).2 := by
  have all : Moves cursor (cursor.past cursor.rest []) :=
    ⟨cursor.rest, .past (List.append_nil _).symm⟩
  cases read : cursor.region brackets with
  | mk result after =>
    cases result with
    | ok body => exact ⟨_, region_reads read⟩
    | error e =>
      unfold region at read
      split at read
      · cases read
        exact moves_refl cursor
      · split at read
        · split at read <;> cases read
          · exact all
          · exact all
        · cases read
          exact moves_refl cursor

/-- Whether a compound is read or refused, the cursor moves over a part of what was left. -/
lemma moves_compound (cursor : Cursor) : Moves cursor cursor.compound.2 := by
  fun_induction compound cursor with
  | case1 cursor => exact moves_refl cursor
  | case2 cursor c rest first brackets opening e after read =>
    have region := moves_region brackets cursor
    rwa [read] at region
  | case3 cursor c rest first brackets opening body middle read e last later ih
  | case4 cursor c rest first brackets opening body middle read text last later ih =>
    have region := moves_region brackets cursor
    rw [read] at region
    rw [later] at ih
    exact region.trans ih
  | case5 cursor => exact moves_refl cursor
  | case6 cursor c rest first opening goesOn e last later ih
  | case7 cursor c rest first opening goesOn text last later ih =>
    have char : Moves cursor (cursor.past [c] rest) := ⟨[c], .past first⟩
    rw [later] at ih
    exact char.trans ih

/-- Whether a token is read or refused, the cursor moves over a part of what was left. -/
lemma moves_next (cursor : Cursor) : Moves cursor cursor.next.2 := by
  have front : Moves cursor cursor.blanks.2 := moves_takeWhile Text.isBlank cursor
  unfold next
  dsimp only
  split
  · exact front
  · rename_i c rest first
    split
    · have mark : Moves cursor.blanks.2 (cursor.blanks.2.past [c] rest) := ⟨[c], .past first⟩
      exact ((front.trans mark).trans (moves_takeWhile Text.isBlank _)).afterCompound _
    · split
      · exact front.afterCompound _
      · have compound := front.trans (moves_compound cursor.blanks.2)
        split
        · rename_i read
          rwa [read] at compound
        · rename_i read
          rw [read] at compound
          exact compound.afterCompound _

/-- Reading tokens moves the cursor over a part of what was left, errors included. -/
lemma moves_tokens (cursor : Cursor) : Moves cursor cursor.tokens.2 := by
  fun_induction tokens cursor with
  | case1 cursor e after read | case2 cursor after read =>
    have next := moves_next cursor
    rwa [read] at next
  | case3 cursor token middle read e last later ih
  | case4 cursor token middle read tokens last later ih =>
    have next := moves_next cursor
    rw [read] at next
    rw [later] at ih
    exact next.trans ih

/-- Whatever a cursor is asked for, it moves over some part of what was left, or it stays. -/
lemma moves_call (cursor : Cursor) (call : Call) : Moves cursor (cursor.call call) := by
  cases call with
  | peek | remainder => exact moves_refl cursor
  | advance => exact moves_advance cursor
  | blanks => exact moves_takeWhile Text.isBlank cursor
  | takeWhile p => exact moves_takeWhile p cursor
  | name => exact moves_takeWhile isNameChar cursor
  | tag => exact moves_takeWhile isTagChar cursor
  | region brackets => exact moves_region brackets cursor
  | next => exact moves_next cursor
  | tokens => exact moves_tokens cursor

/-- Any number of calls move the cursor over a part of what was left. -/
lemma moves_run (cursor : Cursor) (calls : List Call) : Moves cursor (cursor.run calls) := by
  induction calls generalizing cursor with
  | nil => exact moves_refl cursor
  | cons call calls ih => exact (moves_call cursor call).trans (ih _)

/-- The offset never goes back. -/
lemma Moves.offset_le (h : Moves cursor after) : cursor.offset ≤ after.offset := by
  obtain ⟨taken, reads⟩ := h
  rw [reads.offset_eq]
  exact Nat.le_add_right _ _

/-! ### Soundness -/

/-- The text that a call answers, if it answers what it reads. -/
def answer? (cursor : Cursor) : Call → Option Text
  | .advance => cursor.advance.1.map ([·])
  | .takeWhile p => some (cursor.takeWhile p).1
  | .name => some cursor.name.1
  | .tag => some cursor.tag.1
  | _ => none

/-- The cursor stands in the text that is read from the start, and so it stays whatever it is asked
for. -/
structure Sound (input : Text) (cursor : Cursor) : Prop where
  /-- The offset is between two characters, and what is left of the text is left to be read. -/
  place : ∃ read, Text.splitBytes? cursor.offset input = some (read, cursor.rest)
  offset_le : cursor.offset ≤ Text.byteLength input
  /-- No call moves the cursor back. -/
  onward : ∀ call, cursor.offset ≤ (cursor.call call).offset
  /-- Every call moves the cursor character by character. -/
  steps : ∀ call, ∃ n, cursor.run (List.replicate n .advance) =
    { cursor.call call with afterCompound := cursor.afterCompound }
  /-- What is read stands between the offsets before and after the call. -/
  answer : ∀ call t, cursor.answer? call = some t →
    Text.slice? cursor.offset (cursor.call call).offset input = some t
  /-- White space was read if the cursor has moved. -/
  blanks : cursor.blanks.1 ↔ cursor.offset < cursor.blanks.2.offset
  /-- A region is answered without the brackets that it starts and ends with. -/
  region : ∀ brackets body after, cursor.region brackets = (.ok body, after) →
    Text.slice? cursor.offset after.offset input =
        some (brackets.opening :: body ++ [brackets.closing]) ∧
      Text.slice? (cursor.offset + brackets.opening.utf8Size)
        (after.offset - brackets.closing.utf8Size) input = some body
  /-- A region that is refused is quoted up to the end of the text. -/
  refused : ∀ brackets e after, cursor.region brackets = (.error e, after) →
    ∃ fragment, Text.slice? cursor.offset (Text.byteLength input) input = some fragment ∧
      (e = ⟨.unexpected fragment, cursor.offset⟩ ∨
        e = ⟨.unbalanced brackets.opening fragment, cursor.offset⟩ ∨
        ∃ quote offset, e = ⟨.unterminatedQuote quote fragment, offset⟩)
  /-- A token takes the cursor forward. -/
  token : ∀ token after, cursor.next = (.ok (some token), after) → cursor.offset < after.offset
  /-- A compound stands between the offset that it gives and the cursor behind it. -/
  compound : ∀ text offset after, cursor.next = (.ok (some (.compound text offset)), after) →
    Text.slice? offset after.offset input = some text
  /-- There are at most as many tokens as bytes that are left. -/
  tokens : ∀ tokens, cursor.tokens.1 = .ok tokens →
    cursor.offset + tokens.length ≤ Text.byteLength input

variable {input read taken : Text}

/-- What is read between two places of the text is the slice between their offsets. -/
lemma slice?_of_reads (before : Reads (start 0 input) read cursor)
    (h : Reads cursor taken after) :
    Text.slice? cursor.offset after.offset input = some taken := by
  refine Text.slice?_eq_some_iff.2 ⟨⟨read, after.rest, ?_, ?_⟩, h.offset_eq⟩
  · rw [List.append_assoc, ← h.rest_eq]
    exact before.rest_eq
  · rw [before.offset_eq]
    exact Nat.zero_add _

/-- What is read is read by as many advances as it has characters. -/
lemma run_advance_of_reads (h : Reads cursor taken after) :
    cursor.run (List.replicate taken.length .advance) =
      { after with afterCompound := cursor.afterCompound } := by
  induction taken generalizing cursor with
  | nil =>
    obtain ⟨offset, rest, afterCompound⟩ := cursor
    obtain ⟨rfl, offset_eq⟩ := h
    cases offset_eq
    rfl
  | cons c taken ih =>
    have first : cursor.rest = c :: (taken ++ after.rest) := h.rest_eq
    have moved : cursor.call .advance = cursor.past [c] (taken ++ after.rest) := by
      unfold call advance
      rw [first]
    have later : Reads (cursor.past [c] (taken ++ after.rest)) taken after :=
      ⟨rfl, by rw [h.offset_eq, Text.byteLength_cons, ← Nat.add_assoc]; rfl⟩
    rw [List.length_cons, List.replicate_succ, run, List.foldl_cons, moved]
    exact ih later

/-- What is left is as long as the text behind the offset. -/
lemma byteLength_of_reads (before : Reads (start 0 input) read cursor) :
    cursor.offset + Text.byteLength cursor.rest = Text.byteLength input := by
  have split : input = read ++ cursor.rest := before.rest_eq
  have offset : cursor.offset = 0 + Text.byteLength read := before.offset_eq
  rw [split, Text.byteLength_append]
  omega

/-- A call that answers with a text moves over this text. -/
lemma reads_answer {call : Call} {t : Text} (h : cursor.answer? call = some t) :
    Reads cursor t (cursor.call call) := by
  cases call with
  | advance =>
    obtain ⟨c, first, rfl⟩ := Option.map_eq_some_iff.1 h
    unfold Cursor.call
    unfold advance at first ⊢
    split at first
    · cases first
    · rename_i c' rest split
      cases first
      exact .past split
  | takeWhile p =>
    cases h
    exact takeWhile_reads p cursor
  | name =>
    cases h
    exact takeWhile_reads isNameChar cursor
  | tag =>
    cases h
    exact takeWhile_reads isTagChar cursor
  | peek | remainder | blanks | region | next | tokens => cases h

/-- Every token takes at least one character. -/
lemma length_tokens_le {tokens : List Token} (h : cursor.tokens.1 = .ok tokens) :
    tokens.length ≤ cursor.rest.length := by
  induction tokens generalizing cursor with
  | nil => exact Nat.zero_le _
  | cons token tokens ih =>
    obtain ⟨after, next, later⟩ := exists_next_of_tokens h
    exact Nat.lt_of_le_of_lt (ih later) (length_rest_next next)

/-- A cursor moves forward exactly if it reads something. -/
lemma Reads.offset_lt_iff (h : Reads cursor taken after) :
    cursor.offset < after.offset ↔ taken ≠ [] := by
  have size := Text.length_le_byteLength taken
  rw [h.offset_eq, Nat.lt_add_right_iff_pos]
  constructor
  · rintro positive rfl
    exact absurd positive (Nat.lt_irrefl 0)
  · exact fun nonempty => Nat.lt_of_lt_of_le (List.length_pos_iff.2 nonempty) size

/-- What a region is refused for quotes all that is left. -/
lemma region_eq_error (h : cursor.region brackets = (.error e, after)) :
    e = ⟨.unexpected cursor.rest, cursor.offset⟩ ∨
      e = ⟨.unbalanced brackets.opening cursor.rest, cursor.offset⟩ ∨
      ∃ quote offset, e = ⟨.unterminatedQuote quote cursor.rest, offset⟩ := by
  unfold region at h
  split at h
  · rename_i none
    cases h
    exact .inl (by rw [none])
  · split at h
    · rename_i opening
      split at h <;> cases h
      · exact .inr (.inr ⟨_, _, rfl⟩)
      · exact .inr (.inl (by rw [opening]))
    · cases h
      exact .inl rfl

/-- A cursor that has read some part of the text is sound. -/
lemma sound_of_reads (before : Reads (start 0 input) read cursor) : cursor.Sound input where
  place := by
    refine ⟨read, Text.splitBytes?_eq_some_iff.2 ⟨before.rest_eq, ?_⟩⟩
    exact before.offset_eq.trans (Nat.zero_add _)
  offset_le := by
    have := byteLength_of_reads before
    omega
  onward call := (moves_call cursor call).offset_le
  steps call := by
    obtain ⟨taken, reads⟩ := moves_call cursor call
    exact ⟨taken.length, run_advance_of_reads reads⟩
  answer call t answered := slice?_of_reads before (reads_answer answered)
  blanks := by
    have run : Reads cursor (cursor.takeWhile Text.isBlank).1 cursor.blanks.2 :=
      takeWhile_reads Text.isBlank cursor
    rw [run.offset_lt_iff, Cursor.blanks, Bool.not_eq_true', List.isEmpty_eq_false_iff]
  region brackets body after h := by
    have whole := slice?_of_reads before (region_reads h)
    obtain ⟨stands, size⟩ := Text.slice?_eq_some_iff.1 whole
    refine ⟨whole, Text.slice?_eq_some_iff.2 ⟨stands.tail.left, ?_⟩⟩
    simp only [List.cons_append, Text.byteLength_cons, Text.byteLength_append,
      Text.byteLength_nil] at size
    omega
  refused brackets e after h := by
    have all : Reads cursor cursor.rest (cursor.past cursor.rest []) :=
      .past (List.append_nil _).symm
    refine ⟨cursor.rest, byteLength_of_reads before ▸ slice?_of_reads before all, ?_⟩
    exact region_eq_error h
  token token after h := by
    obtain ⟨taken, reads⟩ := (next_eq_some_iff.1 h).reads
    refine reads.offset_lt_iff.2 ?_
    rintro rfl
    have same : cursor.rest = after.rest := reads.rest_eq
    exact absurd (length_rest_next h) (by rw [same]; exact Nat.lt_irrefl _)
  compound text offset after h := by
    have front := before.trans (takeWhile_reads Text.isBlank cursor)
    cases next_eq_some_iff.1 h with
    | @compound _ _ _ last _ _ _ reads =>
      have slice : Text.slice? cursor.blanks.2.offset last.offset input = some text :=
        slice?_of_reads front (compound_reads reads)
      exact slice
  tokens tokens h := by
    have := byteLength_of_reads before
    have := length_tokens_le h
    have := Text.length_le_byteLength cursor.rest
    omega

/-- However a cursor is driven from the start of a text, it stands between two characters of it and
goes forward only, and all that it answers are slices of the text.  No region is closed more often
than it is opened: a count of the open brackets that must not fall below zero can be kept while a
region is read, unless it should start with a backslash. -/
theorem run_sound (input : Text) (calls : List Call) :
    ((start 0 input).run calls).Sound input ∧
    (∀ earlier later, calls = earlier ++ later →
      ((start 0 input).run earlier).offset ≤ ((start 0 input).run calls).offset) ∧
    ∀ (cursor : Cursor) (brackets : Brackets), brackets.opening ≠ '\\' →
      cursor.countedRegion? brackets = some (cursor.region brackets) := by
  refine ⟨?_, ?_, fun cursor brackets opens => countedRegion?_eq opens cursor⟩
  · obtain ⟨read, before⟩ := moves_run (start 0 input) calls
    exact sound_of_reads before
  · rintro earlier later rfl
    rw [run, run, List.foldl_append]
    exact (moves_run _ later).offset_le

end Cursor
end Selector
end TreeQuery
