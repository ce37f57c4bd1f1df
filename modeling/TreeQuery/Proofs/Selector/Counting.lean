import TreeQuery.Proofs.Selector.Balance
import TreeQuery.Selector.Cursor

/-!
# Counting brackets

A scan of a region has passed its opening bracket, and counts the nested regions that are open.  One
may as well start in front of the opening bracket and count this one too.  Then a region ends where
the count falls to zero, and it would be wrong to go on counting down from there.  That never
happens, as the two counts stay one apart.  Main statement: `Cursor.countedRegion?_eq`.
-/

namespace TreeQuery.Selector

namespace Region

/-- What a character does to a scan that counts all open brackets, the outer pair among them. -/
inductive Count where
  | goesOn (state : State)
  /-- The last open bracket is closed. -/
  | closed
  /-- A bracket is closed where none is open. -/
  | below

/-- The scan after one more character, where the outer brackets are counted like any other ones. -/
def State.count (brackets : Brackets) (state : State) (offset : Nat) (c : Char) : Count :=
  if state.escaped then .goesOn { state with escaped := false }
  else if c = '\\' then .goesOn { state with escaped := true }
  else
    match state.quote with
    | some (quote, _) => .goesOn (if c = quote then { state with quote := none } else state)
    | none =>
      if isQuote c && c != brackets.opening then .goesOn { state with quote := some (c, offset) }
      else if c = brackets.opening then .goesOn { state with depth := state.depth + 1 }
      else if c = brackets.closing then
        match state.depth with
        | 0 => .below
        | 1 => .closed
        | depth + 2 => .goesOn { state with depth := depth + 1 }
      else .goesOn state

/-- Scans a text that starts at `offset` to the end of its region, and gives up where a bracket is
closed and none is open. -/
def tally? (brackets : Brackets) (state : State) (offset : Nat) : Text → Option Region
  | [] => some (unfinished state.quote)
  | c :: rest =>
    match state.count brackets offset c with
    | .below => none
    | .closed => some (closed [] rest)
    | .goesOn next => (tally? brackets next (offset + c.utf8Size) rest).map (prepend c)

/-- The scan after a text, unless the region ends in it or a bracket is closed where none is open.
-/
def State.counted? (brackets : Brackets) (state : State) (offset : Nat) : Text → Option State
  | [] => some state
  | c :: t =>
    match state.count brackets offset c with
    | .goesOn next => counted? brackets next (offset + c.utf8Size) t
    | .closed | .below => none

/-- The same state with the outer brackets counted. -/
def State.outer (state : State) : State := { state with depth := state.depth + 1 }

variable {brackets : Brackets}

/-- A step keeps the two counts one apart, so the one that has the outer brackets in it is not zero
where a bracket is closed. -/
lemma count_outer (opens : brackets.opening ≠ '\\') (state : State) (offset : Nat) (c : Char) :
    state.outer.count brackets offset c =
      match state.step brackets offset c with
      | none => .closed
      | some next => .goesOn next.outer := by
  obtain ⟨depth, quote, escaped⟩ := state
  unfold State.count State.step State.outer
  dsimp only
  split
  · rfl
  · split
    · rfl
    · cases quote with
      | some quote =>
        dsimp only
        split <;> rfl
      | none =>
        dsimp only
        split
        · rfl
        · split
          · rfl
          · split
            · cases depth <;> simp [opens]
            · rfl

/-- No bracket is closed where none is open if the outer ones are counted, and the scan stops where
it stopped without them. -/
lemma tally?_outer (opens : brackets.opening ≠ '\\') (state : State) (offset : Nat) (t : Text) :
    tally? brackets state.outer offset t = some (scan brackets state offset t) := by
  induction t generalizing state offset with
  | nil => rfl
  | cons c t ih =>
    rw [tally?, scan, count_outer opens]
    cases state.step brackets offset c with
    | none => rfl
    | some next =>
      dsimp only
      rw [ih]
      rfl

/-- The opening bracket is the first one to be counted. -/
lemma count_opening (opens : brackets.opening ≠ '\\') (offset : Nat) :
    State.count brackets ⟨0, none, false⟩ offset brackets.opening =
      .goesOn (State.outer ⟨0, none, false⟩) := by
  simp [State.count, State.outer, opens]

/-- From the opening bracket on a bracket is open until the scan stops. -/
lemma tally?_opening (opens : brackets.opening ≠ '\\') (offset : Nat) (t : Text) :
    tally? brackets ⟨0, none, false⟩ offset (brackets.opening :: t) =
      some ((scan brackets (.start brackets) (offset + brackets.opening.utf8Size) t).prepend
        brackets.opening) := by
  rw [tally?, count_opening opens, ← start_eq_of_ne opens]
  dsimp only
  rw [tally?_outer opens]
  rfl

/-- The counts stay one apart while a text is passed. -/
lemma counted?_outer (opens : brackets.opening ≠ '\\') (state : State) (offset : Nat) (t : Text) :
    state.outer.counted? brackets offset t = (state.after? brackets offset t).map .outer := by
  induction t generalizing state offset with
  | nil => rfl
  | cons c t ih =>
    rw [State.counted?, State.after?, count_outer opens]
    cases state.step brackets offset c with
    | none => rfl
    | some next => exact ih next _

/-- From the opening bracket on the count is one more than the number of nested regions. -/
lemma counted?_opening (opens : brackets.opening ≠ '\\') (offset : Nat) (t : Text) :
    State.counted? brackets ⟨0, none, false⟩ offset (brackets.opening :: t) =
      ((State.start brackets).after? brackets (offset + brackets.opening.utf8Size) t).map
        .outer := by
  rw [State.counted?, count_opening opens, ← start_eq_of_ne opens]
  exact counted?_outer opens ..

/-- A backslash hides the character behind it and is not counted. -/
example : tally? ⟨'\\', ')'⟩ ⟨0, none, false⟩ 0 "\\a)".toList = none := by decide

end Region

/-- Reads a bracketed region as `Cursor.region` does, but counts the outer brackets with the others
and gives up where a bracket is closed and none is open. -/
def Cursor.countedRegion? (brackets : Brackets) (cursor : Cursor) :
    Option (Except Error Text × Cursor) :=
  match cursor.rest with
  | [] => some (.error ⟨.unexpected [], cursor.offset⟩, cursor)
  | c :: _ =>
    if c = brackets.opening then
      (Region.tally? brackets ⟨0, none, false⟩ cursor.offset cursor.rest).map fun
        | .closed inner after => (.ok inner.tail, cursor.past (inner ++ [brackets.closing]) after)
        | .unfinished (some (quote, offset)) =>
          (.error ⟨.unterminatedQuote quote cursor.rest, offset⟩, cursor.past cursor.rest [])
        | .unfinished none =>
          (.error ⟨.unbalanced c cursor.rest, cursor.offset⟩, cursor.past cursor.rest [])
    else some (.error ⟨.unexpected cursor.rest, cursor.offset⟩, cursor)

/-- The count never falls below zero, and what is read does not depend on it. -/
lemma Cursor.countedRegion?_eq {brackets : Brackets} (opens : brackets.opening ≠ '\\')
    (cursor : Cursor) : cursor.countedRegion? brackets = some (cursor.region brackets) := by
  unfold countedRegion? region
  cases cursor.rest with
  | nil => rfl
  | cons c t =>
    dsimp only
    by_cases opening : c = brackets.opening
    · subst opening
      rw [if_pos rfl, if_pos rfl, Region.tally?_opening opens]
      generalize Region.scan brackets (.start brackets) _ t = scanned
      cases scanned with
      | closed body after => rfl
      | unfinished quote => cases quote <;> rfl
    · rw [if_neg opening, if_neg opening]

end TreeQuery.Selector
