import Mathlib.Data.List.Induction
import TreeQuery.Proofs.Selector.Counting
import TreeQuery.Proofs.Selector.Reading

/-!
# Regions that are not closed

What a scan has passed can be read off its state: its counter is the number of nested regions that
are still open, and if a quote is open the state says which one and where it stands.  So a region
is read where its brackets balance, and otherwise its text ends inside a quote or leaves brackets
open.  Main statement: `region_accepts_balanced`.
-/

namespace TreeQuery.Selector

/-- A text in which some regions stay open: their opening characters stand between balanced texts.
-/
inductive Opened (brackets : Brackets) : (depth : Nat) → Text → Prop where
  | balanced {s : Text} : Balanced brackets s → Opened brackets 0 s
  | opening {depth : Nat} {s t : Text} : Opened brackets depth s → Balanced brackets t →
    Opened brackets (depth + 1) (s ++ brackets.opening :: t)

/-- A text through which a quote stays open.  A backslash at its end finds nothing to hide. -/
inductive LeftOpen (quote : Char) : Text → Prop where
  | visible {t : Text} : Quoted quote t → LeftOpen quote t
  | dangling {t : Text} : Quoted quote t → LeftOpen quote (t ++ ['\\'])

/-- A text that ends inside a quote, with another text in front of that quote. -/
structure EndsQuoted (brackets : Brackets) (t front : Text) (quote : Char) : Prop where
  opened : ∃ depth, Opened brackets depth front
  isQuote : isQuote quote
  leftOpen : ∃ inside, t = front ++ quote :: inside ∧ LeftOpen quote inside

variable {brackets : Brackets} {s t : Text} {c q : Char} {depth : Nat}

/-- What stands inside quotes may be put together. -/
lemma Quoted.append (h : Quoted q s) (h' : Quoted q t) : Quoted q (s ++ t) := by
  induction h with
  | nil => exact h'
  | hidden _ ih => exact .hidden ih
  | plain visible inside _ ih => exact .plain visible inside ih

/-- Balanced texts may be put together. -/
lemma Balanced.append (h : Balanced brackets s) (h' : Balanced brackets t) :
    Balanced brackets (s ++ t) := by
  induction h with
  | nil => exact h'
  | hidden _ ih => exact .hidden ih
  | quoted quote inside _ ih =>
    rw [List.append_assoc]
    exact .quoted quote inside ih
  | nested inner _ _ ih =>
    rw [List.append_assoc]
    exact .nested inner ih
  | plain visible unquoted inner outer _ ih => exact .plain visible unquoted inner outer ih

namespace Opened

/-- A balanced text leaves the same regions open. -/
lemma append (h : Opened brackets depth s) (balanced : Balanced brackets t) :
    Opened brackets depth (s ++ t) := by
  cases h with
  | balanced front => exact .balanced (front.append balanced)
  | opening front inner =>
    rw [List.append_assoc]
    exact .opening front (inner.append balanced)

/-- A closing character closes the innermost region. -/
lemma close (h : Opened brackets (depth + 1) s) :
    Opened brackets depth (s ++ [brackets.closing]) := by
  cases h with
  | opening front inner =>
    rw [List.append_assoc]
    exact front.append (.nested inner .nil)

end Opened

namespace Region

variable {state next final : State} {offset : Nat}

/-! ### What a scan has passed -/

/-- What a scan that started at `offset` has passed in a state. -/
def Reached (brackets : Brackets) (offset : Nat) (s : Text) : State → Prop
  | ⟨depth, none, false⟩ => Opened brackets depth s
  | ⟨depth, none, true⟩ => ∃ front, s = front ++ ['\\'] ∧ Opened brackets depth front
  | ⟨depth, some (q, o), false⟩ => ∃ front inside, s = front ++ q :: inside ∧
    Opened brackets depth front ∧ isQuote q ∧ Quoted q inside ∧
    o = offset + Text.byteLength front
  | ⟨depth, some (q, o), true⟩ => ∃ front inside, s = front ++ q :: (inside ++ ['\\']) ∧
    Opened brackets depth front ∧ isQuote q ∧ Quoted q inside ∧
    o = offset + Text.byteLength front

/-- One more character is passed. -/
lemma Reached.step (reached : Reached brackets offset s state)
    (h : Passes brackets (offset + Text.byteLength s) state c next) :
    Reached brackets offset (s ++ [c]) next := by
  cases h with
  | @hidden depth quote =>
    cases quote with
    | none =>
      obtain ⟨front, rfl, opened⟩ := reached
      rw [List.append_assoc]
      exact opened.append (.hidden .nil)
    | some quote =>
      obtain ⟨front, inside, rfl, opened, quote, quoted, place⟩ := reached
      exact ⟨front, inside ++ ['\\', c], by simp, opened, quote, quoted.append (.hidden .nil),
        place⟩
  | @backslash depth quote =>
    cases quote with
    | none => exact ⟨s, rfl, reached⟩
    | some quote =>
      obtain ⟨front, inside, rfl, opened, quote, quoted, place⟩ := reached
      exact ⟨front, inside, by simp, opened, quote, quoted, place⟩
  | unquote visible =>
    obtain ⟨front, inside, rfl, opened, quote, quoted, -⟩ := reached
    rw [List.append_assoc]
    exact opened.append (.quoted quote quoted .nil)
  | inside visible differ =>
    obtain ⟨front, inside, rfl, opened, quote, quoted, place⟩ := reached
    exact ⟨front, inside ++ [c], by simp, opened, quote,
      quoted.append (.plain visible differ .nil), place⟩
  | quote quote => exact ⟨s, [], rfl, reached, quote, .nil, rfl⟩
  | opening => exact .opening reached .nil
  | closing => exact reached.close
  | plain visible unquoted inner outer =>
    exact reached.append (.plain visible unquoted inner outer .nil)

/-- The state of a scan says what has been passed. -/
theorem reached_of_after? (distinct : brackets.Distinct)
    (h : (State.start brackets).after? brackets offset s = some state) :
    Reached brackets offset s state := by
  induction s using List.reverseRecOn generalizing state with
  | nil =>
    cases h
    rw [start_eq distinct]
    exact .balanced .nil
  | append_singleton s c ih =>
    rw [after?_append] at h
    obtain ⟨middle, passed, last⟩ := Option.bind_eq_some_iff.1 h
    obtain ⟨next, step, done⟩ := Option.bind_eq_some_iff.1 last
    cases done
    exact (ih passed).step (passes_of_step distinct step)

/-! ### Where a scan ends -/

/-- Open regions are counted. -/
lemma after?_opened (distinct : brackets.Distinct) (opened : Opened brackets depth s)
    (offset : Nat) :
    (State.start brackets).after? brackets offset s = some ⟨depth, none, false⟩ := by
  rw [start_eq distinct]
  induction opened with
  | balanced balanced => exact after?_balanced distinct balanced 0 offset
  | opening _ inner ih =>
    rw [after?_append, ih, Option.bind_some, after?_cons distinct .opening,
      after?_balanced distinct inner]

/-- A scan in whose state a quote is open has passed a text that ends inside this quote. -/
lemma endsQuoted_of_after? (distinct : brackets.Distinct) {o : Nat}
    (h : (State.start brackets).after? brackets offset t = some final)
    (inside : final.quote = some (q, o)) : ∃ front, EndsQuoted brackets t front q := by
  have reached := reached_of_after? distinct h
  obtain ⟨depth, quote, escaped⟩ := final
  cases inside
  cases escaped with
  | false =>
    obtain ⟨front, inside, split, opened, quote, quoted, -⟩ := reached
    exact ⟨front, ⟨depth, opened⟩, quote, inside, split, .visible quoted⟩
  | true =>
    obtain ⟨front, inside, split, opened, quote, quoted, -⟩ := reached
    exact ⟨front, ⟨depth, opened⟩, quote, _, split, .dangling quoted⟩

/-- A text that ends inside a quote is passed, and the quote is where the state says. -/
lemma exists_after?_of_endsQuoted (distinct : brackets.Distinct) {front : Text}
    (ends : EndsQuoted brackets t front q) (offset : Nat) :
    ∃ final, (State.start brackets).after? brackets offset t = some final ∧
      final.quote = some (q, offset + Text.byteLength front) := by
  obtain ⟨⟨depth, opened⟩, quote, inside, rfl, leftOpen⟩ := ends
  rw [after?_append, after?_opened distinct opened, Option.bind_some,
    after?_cons distinct (.quote quote)]
  cases leftOpen with
  | visible quoted => exact ⟨_, after?_quoted distinct quoted .., rfl⟩
  | dangling quoted =>
    rw [after?_append, after?_quoted distinct quoted, Option.bind_some,
      after?_cons distinct .backslash]
    exact ⟨_, rfl, rfl⟩

/-- A scan that closes no region passes the whole text. -/
lemma scan_eq_unfinished_iff {quote : Option (Char × Nat)} :
    scan brackets state offset t = unfinished quote ↔
      ∃ final, state.after? brackets offset t = some final ∧ final.quote = quote := by
  induction t generalizing state offset with
  | nil => simp [scan, State.after?]
  | cons c t ih =>
    rw [scan, State.after?]
    cases state.step brackets offset c with
    | none => simp
    | some next =>
      dsimp only [Option.bind_some]
      rw [← ih]
      cases scan brackets next (offset + c.utf8Size) t <;> simp [prepend]

/-- At a closing character that counts, the count with the outer brackets is one more than the
number of nested regions that are open.  If there are none the scan stops, and otherwise the count
goes down by one. -/
lemma count_closing (distinct : brackets.Distinct)
    (h : State.counted? brackets ⟨0, none, false⟩ offset (brackets.opening :: s) = some state)
    (bare : state.quote = none) (visible : state.escaped = false) (o : Nat) :
    ∃ depth, state.depth = depth + 1 ∧ Opened brackets depth s ∧
      state.count brackets o brackets.closing =
        if depth = 0 then .closed else .goesOn { state with depth } := by
  rw [counted?_opening distinct.opening_ne_backslash] at h
  obtain ⟨⟨depth, quote, escaped⟩, passed, rfl⟩ := Option.map_eq_some_iff.1 h
  have reached := reached_of_after? distinct passed
  cases (show quote = none from bare)
  cases (show escaped = false from visible)
  refine ⟨depth, rfl, reached, ?_⟩
  rw [count_outer distinct.opening_ne_backslash]
  cases depth with
  | zero => rw [(step_eq_none_iff distinct).2 ⟨rfl, rfl⟩, if_pos rfl]
  | succ depth =>
    rw [step_of_passes distinct .closing, if_neg (Nat.succ_ne_zero _)]
    rfl

end Region

/-! ### Reading a region -/

namespace Cursor
open Region

variable {cursor after : Cursor} {body front rest : Text}

/-- A region whose text ends is refused, for a quote that is still open if there is one. -/
lemma region_of_unfinished (first : cursor.rest = brackets.opening :: t)
    (quote : Option (Char × Nat)) :
    scan brackets (.start brackets) (cursor.offset + brackets.opening.utf8Size) t =
      .unfinished quote →
    cursor.region brackets =
      (.error (match quote with
        | some (q, o) => ⟨.unterminatedQuote q cursor.rest, o⟩
        | none => ⟨.unbalanced brackets.opening cursor.rest, cursor.offset⟩),
        cursor.past cursor.rest []) := by
  intro h
  unfold region
  split
  · rename_i none
    rw [none] at first
    cases first
  · rename_i c rest split
    obtain ⟨rfl, rfl⟩ := List.cons.inj (split.symm.trans first)
    rw [if_pos rfl, h]
    cases quote <;> rfl

/-- Behind its bracket a region is read as the balanced text up to the bracket that closes it. -/
lemma region_eq_ok_iff_balanced (distinct : brackets.Distinct)
    (first : cursor.rest = brackets.opening :: t) :
    cursor.region brackets = (.ok body, after) ↔ ∃ rest,
      t = body ++ brackets.closing :: rest ∧ Balanced brackets body ∧
        after = cursor.past (brackets.opening :: body ++ [brackets.closing]) rest := by
  rw [region_eq_ok_iff]
  constructor
  · rintro ⟨t', rest, split, closed, rfl⟩
    obtain ⟨-, rfl⟩ := List.cons.inj (first.symm.trans split)
    obtain ⟨split, balanced⟩ := (scan_start_eq_closed_iff distinct).1 closed
    exact ⟨rest, split, balanced, rfl⟩
  · rintro ⟨rest, split, balanced, rfl⟩
    exact ⟨t, rest, first, (scan_start_eq_closed_iff distinct).2 ⟨split, balanced⟩, rfl⟩

/-- A region is refused for a quote that its text ends in, at the place of that quote. -/
lemma region_of_endsQuoted (distinct : brackets.Distinct)
    (first : cursor.rest = brackets.opening :: t) (ends : EndsQuoted brackets t front q) :
    cursor.region brackets =
      (.error ⟨.unterminatedQuote q cursor.rest,
        cursor.offset + Text.byteLength (brackets.opening :: front)⟩,
        cursor.past cursor.rest []) := by
  obtain ⟨final, passed, quote⟩ :=
    exists_after?_of_endsQuoted distinct ends (cursor.offset + brackets.opening.utf8Size)
  rw [region_of_unfinished first _ (scan_eq_unfinished_iff.2 ⟨final, passed, quote⟩),
    Text.byteLength_cons, Nat.add_assoc]

/-- A region that is neither closed nor ends inside a quote is refused for its opening character. -/
lemma region_of_opened (distinct : brackets.Distinct)
    (first : cursor.rest = brackets.opening :: t)
    (unclosed : ∀ body rest, t = body ++ brackets.closing :: rest → ¬ Balanced brackets body)
    (unquoted : ∀ front q, ¬ EndsQuoted brackets t front q) :
    cursor.region brackets =
      (.error ⟨.unbalanced brackets.opening cursor.rest, cursor.offset⟩,
        cursor.past cursor.rest []) := by
  cases outcome : scan brackets (.start brackets) (cursor.offset + brackets.opening.utf8Size) t with
  | closed body rest =>
    obtain ⟨split, balanced⟩ := (scan_start_eq_closed_iff distinct).1 outcome
    exact absurd balanced (unclosed body rest split)
  | unfinished quote =>
    obtain ⟨final, passed, rfl⟩ := scan_eq_unfinished_iff.1 outcome
    rw [region_of_unfinished first _ outcome]
    cases e : final.quote with
    | none => rfl
    | some inside =>
      obtain ⟨front, ends⟩ := endsQuoted_of_after? distinct passed e
      exact absurd ends (unquoted front inside.1)

/-- A region is read exactly if it is one: an opening character, a balanced text, which is the only
one, and a closing character.  Where there is no opening character nothing is read.  In all other
cases everything is read, and the region is refused for the quote in which the text ends, or else
for its opening character.  A count of all open brackets may be kept while the region is read: at a
closing character that counts it is one more than the number of nested regions that are open there,
so the region ends where this number is zero, and otherwise the count goes down by one.  It never
falls below zero. -/
theorem region_accepts_balanced (distinct : brackets.Distinct) (cursor : Cursor) :
    (cursor.rest.head? ≠ some brackets.opening →
      cursor.region brackets = (.error ⟨.unexpected cursor.rest, cursor.offset⟩, cursor)) ∧
    cursor.countedRegion? brackets = some (cursor.region brackets) ∧
    ∀ t, cursor.rest = brackets.opening :: t →
      (∀ body after, cursor.region brackets = (.ok body, after) ↔ ∃ rest,
        t = body ++ brackets.closing :: rest ∧ Balanced brackets body ∧
          after = cursor.past (brackets.opening :: body ++ [brackets.closing]) rest) ∧
      (∀ body rest body' rest', t = body ++ brackets.closing :: rest → Balanced brackets body →
        t = body' ++ brackets.closing :: rest' → Balanced brackets body' → body = body') ∧
      (∀ front quote, EndsQuoted brackets t front quote →
        cursor.region brackets =
          (.error ⟨.unterminatedQuote quote cursor.rest,
            cursor.offset + Text.byteLength (brackets.opening :: front)⟩,
            cursor.past cursor.rest [])) ∧
      ((∀ body rest, t = body ++ brackets.closing :: rest → ¬ Balanced brackets body) →
        (∀ front quote, ¬ EndsQuoted brackets t front quote) →
        cursor.region brackets =
          (.error ⟨.unbalanced brackets.opening cursor.rest, cursor.offset⟩,
            cursor.past cursor.rest [])) ∧
      ∀ s u state offset, t = s ++ brackets.closing :: u →
        State.counted? brackets ⟨0, none, false⟩ cursor.offset (brackets.opening :: s) =
          some state →
        state.quote = none → state.escaped = false →
        ∃ depth, state.depth = depth + 1 ∧ Opened brackets depth s ∧
          state.count brackets offset brackets.closing =
            if depth = 0 then .closed else .goesOn { state with depth } := by
  refine ⟨fun other => ?_, countedRegion?_eq distinct.opening_ne_backslash cursor,
    fun t first => ⟨fun body after => ?_, ?_, ?_, ?_, ?_⟩⟩
  · unfold region
    split
    · rename_i none
      rw [none]
    · rename_i c rest split
      rw [if_neg fun opens => other (by rw [split, opens]; rfl)]
  · exact region_eq_ok_iff_balanced distinct first
  · intro body rest body' rest' split balanced split' balanced'
    have read := (region_eq_ok_iff_balanced distinct first).2 ⟨rest, split, balanced, rfl⟩
    have read' := (region_eq_ok_iff_balanced distinct first).2 ⟨rest', split', balanced', rfl⟩
    exact Except.ok.inj (congrArg Prod.fst (read.symm.trans read'))
  · intro front quote ends
    exact region_of_endsQuoted distinct first ends
  · exact region_of_opened distinct first
  · intro s u state offset _ passed bare visible
    exact count_closing distinct passed bare visible offset

/-- A quote in a nested region hides everything up to the end, where a backslash stands. -/
theorem region_quote_in_nested :
    Brackets.round.Distinct ∧
    EndsQuoted .round "é(b\\\" \"c)\\".toList "é(b\\\" ".toList '"' ∧
    (start 3 "(é(b\\\" \"c)\\".toList).region .round =
      (.error ⟨.unterminatedQuote '"' "(é(b\\\" \"c)\\".toList, 11⟩, ⟨15, [], false⟩) := by
  have first : Balanced .round "é".toList :=
    .plain (by decide) (by decide) (by decide) (by decide) .nil
  have second : Balanced .round "b\\\" ".toList :=
    .plain (by decide) (by decide) (by decide) (by decide)
      (.hidden (.plain (by decide) (by decide) (by decide) (by decide) .nil))
  have inside : Quoted '"' "c)".toList :=
    .plain (by decide) (by decide) (.plain (by decide) (by decide) .nil)
  have ends : EndsQuoted .round "é(b\\\" \"c)\\".toList "é(b\\\" ".toList '"' :=
    ⟨⟨1, .opening (.balanced first) second⟩, by decide, _, rfl, .dangling inside⟩
  obtain ⟨-, -, read⟩ :=
    region_accepts_balanced Brackets.distinct_round (start 3 "(é(b\\\" \"c)\\".toList)
  exact ⟨Brackets.distinct_round, ends, (read _ rfl).2.2.1 _ _ ends⟩

end Cursor
end TreeQuery.Selector
