import Mathlib.Tactic.Lemma
import TreeQuery.Selector.Region

/-!
# Balanced regions

A body of a region is a sequence of items: a backslash with the character that it hides, a quoted
run, a body between brackets, or any other character.  The scan of a region closes it after a body
and nowhere else.  Main statement: `scan_start_eq_closed_iff`.
-/

namespace TreeQuery.Selector

/-- Brackets that differ from each other, from quotes and from the backslash. -/
structure Brackets.Distinct (brackets : Brackets) : Prop where
  differ : brackets.opening ≠ brackets.closing
  opening_ne_backslash : brackets.opening ≠ '\\'
  closing_ne_backslash : brackets.closing ≠ '\\'
  opening_not_quote : isQuote brackets.opening = false
  closing_not_quote : isQuote brackets.closing = false

/-- Round brackets are distinct from each other, from the quotes and from the backslash. -/
lemma Brackets.distinct_round : Brackets.round.Distinct := by
  constructor <;> decide

/-- Square brackets are distinct from each other, from the quotes and from the backslash. -/
lemma Brackets.distinct_square : Brackets.square.Distinct := by
  constructor <;> decide

/-- A text that stands inside quotes: it holds neither the quote nor a backslash, except in pairs of
a backslash and any character. -/
inductive Quoted (quote : Char) : Text → Prop where
  | nil : Quoted quote []
  | hidden {c : Char} {t : Text} : Quoted quote t → Quoted quote ('\\' :: c :: t)
  | plain {c : Char} {t : Text} :
    c ≠ '\\' → c ≠ quote → Quoted quote t → Quoted quote (c :: t)

/-- A text that stands between brackets. -/
inductive Balanced (brackets : Brackets) : Text → Prop where
  | nil : Balanced brackets []
  | hidden {c : Char} {t : Text} : Balanced brackets t → Balanced brackets ('\\' :: c :: t)
  | quoted {q : Char} {s t : Text} :
    isQuote q → Quoted q s → Balanced brackets t → Balanced brackets (q :: s ++ q :: t)
  | nested {s t : Text} : Balanced brackets s → Balanced brackets t →
    Balanced brackets (brackets.opening :: s ++ brackets.closing :: t)
  | plain {c : Char} {t : Text} :
    c ≠ '\\' → isQuote c = false → c ≠ brackets.opening → c ≠ brackets.closing →
    Balanced brackets t → Balanced brackets (c :: t)

variable {brackets : Brackets} {t rest : Text} {c : Char}

/-- A character that is no bracket and hides nothing does not matter. -/
lemma balanced_cons_iff (visible : c ≠ '\\') (unquoted : isQuote c = false)
    (inner : c ≠ brackets.opening) (outer : c ≠ brackets.closing) :
    Balanced brackets (c :: t) ↔ Balanced brackets t := by
  refine ⟨fun h => ?_, .plain visible unquoted inner outer⟩
  generalize split : c :: t = s at h
  cases h with
  | nil => cases split
  | hidden => exact absurd (List.cons.inj split).1 visible
  | quoted quote =>
    cases (List.cons.inj split).1
    cases unquoted.symm.trans quote
  | nested => exact absurd (List.cons.inj split).1 inner
  | plain _ _ _ _ later =>
    cases split
    exact later

namespace Region

/-! ### Steps -/

/-- What one character does to a scan. -/
inductive Passes (brackets : Brackets) (offset : Nat) : State → Char → State → Prop where
  | hidden {depth : Nat} {quote : Option (Char × Nat)} {c : Char} :
    Passes brackets offset ⟨depth, quote, true⟩ c ⟨depth, quote, false⟩
  | backslash {depth : Nat} {quote : Option (Char × Nat)} :
    Passes brackets offset ⟨depth, quote, false⟩ '\\' ⟨depth, quote, true⟩
  | unquote {depth o : Nat} {q : Char} : q ≠ '\\' →
    Passes brackets offset ⟨depth, some (q, o), false⟩ q ⟨depth, none, false⟩
  | inside {depth o : Nat} {q c : Char} : c ≠ '\\' → c ≠ q →
    Passes brackets offset ⟨depth, some (q, o), false⟩ c ⟨depth, some (q, o), false⟩
  | quote {depth : Nat} {q : Char} : isQuote q →
    Passes brackets offset ⟨depth, none, false⟩ q ⟨depth, some (q, offset), false⟩
  | opening {depth : Nat} :
    Passes brackets offset ⟨depth, none, false⟩ brackets.opening ⟨depth + 1, none, false⟩
  | closing {depth : Nat} :
    Passes brackets offset ⟨depth + 1, none, false⟩ brackets.closing ⟨depth, none, false⟩
  | plain {depth : Nat} {c : Char} :
    c ≠ '\\' → isQuote c = false → c ≠ brackets.opening → c ≠ brackets.closing →
    Passes brackets offset ⟨depth, none, false⟩ c ⟨depth, none, false⟩

/-- No quote is a backslash. -/
lemma ne_backslash_of_isQuote (h : isQuote c) : c ≠ '\\' := by
  rintro rfl
  exact absurd h (by decide)

/-- Every step of a scan passes its character in one of these ways. -/
lemma passes_of_step (distinct : brackets.Distinct) {state next : State} {offset : Nat}
    (h : state.step brackets offset c = some next) : Passes brackets offset state c next := by
  obtain ⟨depth, quote, escaped⟩ := state
  cases escaped with
  | true =>
    cases h
    exact .hidden
  | false =>
    unfold State.step at h
    dsimp only at h
    rw [if_neg Bool.false_ne_true] at h
    split at h
    · rename_i backslash
      cases h
      cases backslash
      exact .backslash
    · rename_i visible
      split at h
      · rename_i q o
        split at h
        · rename_i closing
          cases h
          cases closing
          exact .unquote visible
        · rename_i inside
          cases h
          exact .inside visible inside
      · split at h
        · rename_i quote
          cases h
          exact .quote (Bool.and_eq_true_iff.1 quote).1
        · rename_i unquoted
          split at h
          · rename_i opening
            cases h
            cases opening
            exact .opening
          · rename_i inner
            split at h
            · rename_i closing
              cases closing
              split at h
              -- At depth zero the closing character would end the scan.
              · cases h
              · rename_i deep
                cases h
                cases depth with
                | zero => exact absurd distinct.opening_ne_backslash (by simpa using deep)
                | succ depth => exact .closing
            · rename_i other
              cases h
              exact .plain visible (by simpa [inner] using unquoted) inner other

/-- Each of these ways to pass a character is a step of the scan. -/
lemma step_of_passes (distinct : brackets.Distinct) {state next : State} {offset : Nat}
    (h : Passes brackets offset state c next) : state.step brackets offset c = some next := by
  cases h with
  | hidden => rfl
  | backslash => rfl
  | unquote visible => simp [State.step, visible]
  | inside visible inside => simp [State.step, visible, inside]
  | quote quote =>
    have differ : c ≠ brackets.opening := by
      rintro rfl
      exact absurd quote (by simp [distinct.opening_not_quote])
    simp [State.step, ne_backslash_of_isQuote quote, quote, differ]
  | opening => simp [State.step, distinct.opening_ne_backslash, distinct.opening_not_quote]
  | closing =>
    simp [State.step, distinct.closing_ne_backslash, distinct.closing_not_quote,
      distinct.differ.symm]
  | plain visible unquoted inner outer => simp [State.step, visible, unquoted, inner, outer]

/-- A scan stops only at a closing character outside quotes and nested regions. -/
lemma step_eq_none_iff (distinct : brackets.Distinct) {state : State} {offset : Nat} :
    state.step brackets offset c = none ↔ c = brackets.closing ∧ state = ⟨0, none, false⟩ := by
  constructor
  · intro h
    obtain ⟨depth, quote, escaped⟩ := state
    unfold State.step at h
    repeat' split at h
    all_goals cases h
    -- One branch of a step ends the scan, and its tests determine the state.
    rename_i visible _ _ bare _ _ closing bottom
    have visible : escaped = false := Bool.eq_false_iff.2 visible
    have bare : quote = none := bare
    have top : depth = 0 := of_decide_eq_true (Bool.and_eq_true_iff.1 bottom).1
    rw [visible, bare, top]
    exact ⟨closing, rfl⟩
  · intro h
    obtain ⟨rfl, rfl⟩ := h
    simp [State.step, distinct.closing_ne_backslash, distinct.closing_not_quote,
      distinct.differ.symm, distinct.opening_ne_backslash]

/-! ### What a scan closes is balanced -/

/-- What closes a number of nested regions and then goes on as the body around them. -/
def Closes (brackets : Brackets) : (depth : Nat) → Text → Prop
  | 0, t => Balanced brackets t
  | depth + 1, t => ∃ s u, t = s ++ brackets.closing :: u ∧ Balanced brackets s ∧
    Closes brackets depth u

/-- What is left of a body in a state of its scan. -/
def Remains (brackets : Brackets) : State → Text → Prop
  | ⟨depth, none, false⟩, t => Closes brackets depth t
  | ⟨depth, none, true⟩, t => ∃ c u, t = c :: u ∧ Closes brackets depth u
  | ⟨depth, some (q, _), false⟩, t => ∃ s u, t = s ++ q :: u ∧ Quoted q s ∧ Closes brackets depth u
  | ⟨depth, some (q, _), true⟩, t => ∃ c s u, t = c :: s ++ q :: u ∧ Quoted q s ∧
    Closes brackets depth u

/-- What may stand in front of a balanced text may stand in front of what closes regions. -/
lemma Closes.prepend {s : Text} {depth : Nat}
    (front : ∀ t, Balanced brackets t → Balanced brackets (s ++ t))
    (h : Closes brackets depth t) : Closes brackets depth (s ++ t) := by
  cases depth with
  | zero => exact front t h
  | succ depth =>
    obtain ⟨s', u, rfl, balanced, closes⟩ := h
    exact ⟨s ++ s', u, by simp, front s' balanced, closes⟩

/-- A character that may stand in front of a balanced text may stand in front of what closes
regions. -/
lemma Closes.cons {depth : Nat} (front : ∀ t, Balanced brackets t → Balanced brackets (c :: t))
    (h : Closes brackets depth t) : Closes brackets depth (c :: t) :=
  h.prepend (s := [c]) front

/-- A character that a scan passes belongs to the body. -/
lemma remains_of_passes {state next : State} {offset : Nat}
    (h : Passes brackets offset state c next) (remains : Remains brackets next t) :
    Remains brackets state (c :: t) := by
  cases h with
  | @hidden depth quote =>
    cases quote with
    | none => exact ⟨c, t, rfl, remains⟩
    | some quote =>
      obtain ⟨s, u, rfl, quoted, closes⟩ := remains
      exact ⟨c, s, u, rfl, quoted, closes⟩
  | @backslash depth quote =>
    cases quote with
    | none =>
      obtain ⟨c, u, rfl, closes⟩ := remains
      exact closes.prepend (s := ['\\', c]) fun _ => .hidden
    | some quote =>
      obtain ⟨c, s, u, rfl, quoted, closes⟩ := remains
      exact ⟨'\\' :: c :: s, u, rfl, .hidden quoted, closes⟩
  | unquote => exact ⟨[], t, rfl, .nil, remains⟩
  | inside visible inside =>
    obtain ⟨s, u, rfl, quoted, closes⟩ := remains
    exact ⟨c :: s, u, rfl, .plain visible inside quoted, closes⟩
  | quote quote =>
    obtain ⟨s, u, rfl, quoted, closes⟩ := remains
    have run : Closes brackets _ (c :: s ++ [c] ++ u) := closes.prepend fun t balanced => by
      rw [List.append_assoc]
      exact .quoted quote quoted balanced
    rwa [List.append_assoc] at run
  | opening =>
    obtain ⟨s, u, rfl, inner, closes⟩ := remains
    have region : Closes brackets _ (brackets.opening :: s ++ [brackets.closing] ++ u) :=
      closes.prepend fun t balanced => by
        rw [List.append_assoc]
        exact .nested inner balanced
    rwa [List.append_assoc] at region
  | closing => exact ⟨[], t, rfl, .nil, remains⟩
  | plain visible unquoted inner outer =>
    exact remains.cons fun _ => .plain visible unquoted inner outer

/-- The body that a scan closes is what its state has left open. -/
lemma remains_of_scan (distinct : brackets.Distinct) {state : State} {offset : Nat} {body : Text}
    (h : scan brackets state offset t = closed body rest) : Remains brackets state body := by
  induction t generalizing state offset body with
  | nil => cases h
  | cons c t ih =>
    rw [scan] at h
    split at h
    · rename_i stop
      cases h
      obtain ⟨-, rfl⟩ := (step_eq_none_iff distinct).1 stop
      exact Balanced.nil
    · rename_i next step
      cases inner : scan brackets next (offset + c.utf8Size) t with
      | unfinished quote =>
        rw [inner] at h
        cases h
      | closed body' rest' =>
        rw [inner] at h
        cases h
        exact remains_of_passes (passes_of_step distinct step) (ih inner)

/-! ### Runs -/

/-- The scan after a text, unless a character of the text closes the region. -/
def State.after? (brackets : Brackets) (state : State) (offset : Nat) : Text → Option State
  | [] => some state
  | c :: t => (state.step brackets offset c).bind fun next =>
    after? brackets next (offset + c.utf8Size) t

/-- The scan of two texts is the scan of the second after the first. -/
lemma after?_append (state : State) (offset : Nat) (s t : Text) :
    state.after? brackets offset (s ++ t) = (state.after? brackets offset s).bind fun next =>
      next.after? brackets (offset + Text.byteLength s) t := by
  induction s generalizing state offset with
  | nil => rfl
  | cons c s ih =>
    rw [List.cons_append, State.after?, State.after?, Option.bind_assoc]
    apply congrArg (Option.bind _)
    funext next
    rw [ih, Text.byteLength_cons, Nat.add_assoc]

/-- A scan of a text goes on from the state after its first part. -/
lemma scan_of_after? {state next : State} {offset : Nat} {s : Text}
    (passed : state.after? brackets offset s = some next) :
    scan brackets state offset (s ++ t) =
      s.foldr prepend (scan brackets next (offset + Text.byteLength s) t) := by
  induction s generalizing state offset with
  | nil =>
    cases passed
    rfl
  | cons c s ih =>
    obtain ⟨middle, step, later⟩ := Option.bind_eq_some_iff.1 passed
    rw [List.cons_append, scan, step]
    dsimp only
    rw [ih later, Text.byteLength_cons, Nat.add_assoc]
    rfl

/-- Characters that are kept for the body stand in front of it. -/
lemma foldr_prepend_closed (s body rest : Text) :
    s.foldr prepend (closed body rest) = closed (s ++ body) rest := by
  induction s with
  | nil => rfl
  | cons c s ih =>
    rw [List.foldr_cons, ih]
    rfl

/-- A character that is passed leads to the next state. -/
lemma after?_cons (distinct : brackets.Distinct) {state next : State} {offset : Nat}
    (h : Passes brackets offset state c next) :
    state.after? brackets offset (c :: t) = next.after? brackets (offset + c.utf8Size) t := by
  rw [State.after?, step_of_passes distinct h]
  rfl

/-- What stands inside quotes leaves the scan there. -/
lemma after?_quoted (distinct : brackets.Distinct) {q : Char} (quoted : Quoted q t)
    (depth o offset : Nat) :
    State.after? brackets ⟨depth, some (q, o), false⟩ offset t =
      some ⟨depth, some (q, o), false⟩ := by
  induction quoted generalizing offset with
  | nil => rfl
  | hidden _ ih => rw [after?_cons distinct .backslash, after?_cons distinct .hidden, ih]
  | plain visible inside _ ih => rw [after?_cons distinct (.inside visible inside), ih]

/-- A balanced text leaves the scan where it was. -/
lemma after?_balanced (distinct : brackets.Distinct) (balanced : Balanced brackets t)
    (depth offset : Nat) :
    State.after? brackets ⟨depth, none, false⟩ offset t = some ⟨depth, none, false⟩ := by
  induction balanced generalizing depth offset with
  | nil => rfl
  | hidden _ ih => rw [after?_cons distinct .backslash, after?_cons distinct .hidden, ih]
  | quoted quote quoted _ ih =>
    rw [List.cons_append, after?_cons distinct (.quote quote), after?_append,
      after?_quoted distinct quoted, Option.bind_some,
      after?_cons distinct (.unquote (ne_backslash_of_isQuote quote)), ih]
  | nested _ _ ihs iht =>
    rw [List.cons_append, after?_cons distinct .opening, after?_append, ihs, Option.bind_some,
      after?_cons distinct .closing, iht]
  | plain visible unquoted inner outer _ ih =>
    rw [after?_cons distinct (.plain visible unquoted inner outer), ih]

/-- Where brackets do not open with a backslash nothing is hidden or open at the start. -/
lemma start_eq_of_ne (opens : brackets.opening ≠ '\\') :
    State.start brackets = ⟨0, none, false⟩ := by
  simp [State.start, opens]

/-- Distinct brackets start with nothing hidden, quoted or open. -/
lemma start_eq (distinct : brackets.Distinct) : State.start brackets = ⟨0, none, false⟩ :=
  start_eq_of_ne distinct.opening_ne_backslash

/-- A scan closes a region right after a balanced body and nowhere else. -/
theorem scan_start_eq_closed_iff (distinct : brackets.Distinct) {offset : Nat} {body : Text} :
    scan brackets (.start brackets) offset t = closed body rest ↔
      t = body ++ brackets.closing :: rest ∧ Balanced brackets body := by
  rw [start_eq distinct]
  constructor
  · intro h
    exact ⟨eq_of_scan_eq_closed h, remains_of_scan distinct h⟩
  · intro h
    obtain ⟨rfl, balanced⟩ := h
    rw [scan_of_after? (after?_balanced distinct balanced 0 offset), scan,
      (step_eq_none_iff distinct).2 ⟨rfl, rfl⟩]
    dsimp only
    rw [foldr_prepend_closed, List.append_nil]

end Region
end TreeQuery.Selector
