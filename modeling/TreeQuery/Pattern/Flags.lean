import TreeQuery.Text.Basic
import TreeQuery.Text.Blank
import TreeQuery.Text.CaseFold

/-!
# Flags

How a pattern is read and what its parts stand for depends on flags, which hold from where they are
set to the end of the group.
-/

namespace TreeQuery.Pattern

open Text (CodePoints)

/-- How the pattern is read from here to the end of the group. -/
structure Flags where
  ignoreCase : Bool
  /-- Whether `^` and `$` also match at line ends. -/
  multiLine : Bool
  /-- Whether the dot matches line ends. -/
  dotAll : Bool
  /-- Whether `\r` is a line end too. -/
  carriageReturns : Bool
  /-- Whether repetition is lazy unless it is marked. -/
  swapGreed : Bool
  /-- Whether white space and comments in the pattern are skipped. -/
  verbose : Bool
  /-- Whether classes are those of Unicode and not those of ASCII. -/
  unicode : Bool

namespace Flags

/-- The flags at the start of a pattern. -/
def standard : Flags := ⟨false, false, false, false, false, false, true⟩

/-- The flags after setting the one of the given letter. -/
def set (flags : Flags) (value : Bool) : Char → Option Flags
  | 'i' => some { flags with ignoreCase := value }
  | 'm' => some { flags with multiLine := value }
  | 's' => some { flags with dotAll := value }
  | 'R' => some { flags with carriageReturns := value }
  | 'U' => some { flags with swapGreed := value }
  | 'x' => some { flags with verbose := value }
  | 'u' => some { flags with unicode := value }
  | _ => none

/-! ### Sets of characters -/

/-- A set as the case flag has it. -/
def fold (flags : Flags) (set : CodePoints) : CodePoints :=
  if !flags.ignoreCase then set else if flags.unicode then set.anyCase else set.anyAsciiCase

/-- What is not in a set.  Without Unicode this would hold parts of characters, so it is refused. -/
def negate (flags : Flags) (set : CodePoints) : Option CodePoints :=
  if flags.unicode then some set.complement else none

/-- A set, or what is not in it. -/
def negateIf (flags : Flags) (negated : Bool) (set : CodePoints) : Option CodePoints :=
  if negated then flags.negate set else some set

/-! ### Skipping -/

/-- The longest run of characters that `accept` takes, and the text after it.  In a verbose pattern
white space does not count, nor does a comment, which runs from a number sign to the end of the
line; in the middle of a comment `comment` holds. -/
def run (flags : Flags) (accept : Char → Bool) (comment : Bool) : Text → Text × Text
  | [] => ([], [])
  | c :: rest =>
    if comment then run flags accept (c != '\n') rest
    else if flags.verbose && c == '#' then run flags accept true rest
    else if flags.verbose && Text.isBlank c then run flags accept false rest
    else if accept c then
      let (taken, after) := run flags accept false rest
      (c :: taken, after)
    else ([], c :: rest)

/-- The longest run of characters that `accept` takes, and the text after it. -/
def takeWhile (flags : Flags) (accept : Char → Bool) (t : Text) : Text × Text :=
  flags.run accept false t

/-- Skips what does not count in a verbose pattern. -/
def skip (flags : Flags) (t : Text) : Text := (flags.takeWhile (fun _ => false) t).2

/-- The next `n` characters that count, and the text after them. -/
def take (flags : Flags) : Nat → Text → Option (Text × Text)
  | 0, t => some ([], t)
  | n + 1, t =>
    match flags.skip t with
    | [] => none
    | c :: rest => (flags.take n rest).map fun (taken, after) => (c :: taken, after)

/-- The characters that count up to the closing brace, and the text after the brace. -/
def braced (flags : Flags) (t : Text) : Option (Text × Text) :=
  match flags.takeWhile (· != '\x7d') t with
  | (content, _ :: after) => some (content, after)
  | _ => none

end Flags
end TreeQuery.Pattern
