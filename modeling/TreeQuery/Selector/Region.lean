import TreeQuery.Text.Basic

/-!
# Bracketed regions

A region runs from an opening character to the closing character that balances it.  Inside it,
nested brackets count, quotes hide whatever they hold, and a backslash hides the character after it.
The scan stops right after the closing character or at the end of the text.
-/

namespace TreeQuery.Selector

/-- Whether a character opens and closes quotes. -/
def isQuote (c : Char) : Bool := c == '"' || c == '\''

/-- The brackets that open and close a region. -/
structure Brackets where
  opening : Char
  closing : Char
deriving DecidableEq, Repr

namespace Brackets

/-- Round brackets, as they stand around the argument of a pseudo-class. -/
def round : Brackets := ⟨'(', ')'⟩

/-- Square brackets, as they stand around an attribute test. -/
def square : Brackets := ⟨'[', ']'⟩

/-- The brackets that a character opens in a selector. -/
def ofOpening? : Char → Option Brackets
  | '(' => some round
  | '[' => some square
  | _ => none

end Brackets

namespace Region

/-- Where a scan stands inside a region. -/
structure State where
  /-- How many nested regions are open. -/
  depth : Nat
  /-- The quote that is open, with its offset. -/
  quote : Option (Char × Nat)
  /-- Whether a backslash hides the next character. -/
  escaped : Bool
deriving DecidableEq, Repr

/-- The scan right after the opening character, which hides its successor if it is a backslash. -/
def State.start (brackets : Brackets) : State := ⟨0, none, brackets.opening == '\\'⟩

/-- The scan after one more character, or `none` if that character closes the region.  A backslash
hides a character and opens nothing, so a region that should start with one is never closed. -/
def State.step (brackets : Brackets) (state : State) (offset : Nat) (c : Char) : Option State :=
  if state.escaped then some { state with escaped := false }
  else if c = '\\' then some { state with escaped := true }
  else
    match state.quote with
    | some (quote, _) => some (if c = quote then { state with quote := none } else state)
    | none =>
      if isQuote c && c != brackets.opening then some { state with quote := some (c, offset) }
      else if c = brackets.opening then some { state with depth := state.depth + 1 }
      else if c = brackets.closing then
        if state.depth = 0 && brackets.opening != '\\' then none
        else some { state with depth := state.depth - 1 }
      else some state

end Region

/-- How the scan for the end of a region comes out. -/
inductive Region where
  /-- The region is closed: the text between its brackets, and the text after them. -/
  | closed (body rest : Text)
  /-- The text ended, inside the given quote if any. -/
  | unfinished (quote : Option (Char × Nat))
deriving DecidableEq, Repr

namespace Region

/-- The region with one more character at the start of its body. -/
def prepend (c : Char) : Region → Region
  | closed body rest => closed (c :: body) rest
  | unfinished quote => unfinished quote

/-- Scans the text that starts at `offset` for the end of the region. -/
def scan (brackets : Brackets) (state : State) (offset : Nat) : Text → Region
  | [] => unfinished state.quote
  | c :: rest =>
    match state.step brackets offset c with
    | none => closed [] rest
    | some next => (scan brackets next (offset + c.utf8Size) rest).prepend c

/-- A closed region is made of its body and a closing character, and the rest follows. -/
theorem eq_of_scan_eq_closed {brackets : Brackets} {state : State} {offset : Nat}
    {t body rest : Text} (h : scan brackets state offset t = closed body rest) :
    t = body ++ brackets.closing :: rest := by
  induction t generalizing state offset body with
  | nil => simp [scan] at h
  | cons c t ih =>
    rw [scan] at h
    split at h
    · rename_i hstep
      cases h
      unfold State.step at hstep
      repeat' split at hstep
      all_goals cases hstep
      rename_i hc _
      rw [hc, List.nil_append]
    · rename_i next _
      cases hscan : scan brackets next (offset + c.utf8Size) t with
      | unfinished q => rw [hscan] at h; cases h
      | closed body' rest' =>
        rw [hscan] at h
        cases h
        rw [ih hscan, List.cons_append]

end Region
end TreeQuery.Selector
