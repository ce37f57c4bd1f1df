import TreeQuery.Pattern.Escape
import TreeQuery.Text.Words

/-!
# Classes in square brackets

A class lists characters, ranges, escapes and classes inside it, and may be negated.  Lists are
combined by the operations on sets, from left to right.  The height of a class is how deep its
brackets, lists and operations nest.
-/

namespace TreeQuery.Pattern.Bracket

open Text (CodePoints)

/-- A set of characters, and how deep the class nests that it was written as. -/
structure Sized where
  set : CodePoints
  height : Nat

/-- An operation between two sets inside a class. -/
inductive SetOp where
  | inter
  | diff
  | symmDiff

/-- The set that the operation makes of two. -/
def SetOp.apply : SetOp → CodePoints → CodePoints → CodePoints
  | inter => .inter
  | diff => .diff
  | symmDiff => .symmDiff

/-! ### Elements -/

/-- A character or an escape inside a class. -/
def atom (flags : Flags) : Text → Option (Atom × Text)
  | [] => none
  | '\\' :: rest => Escape.read flags rest
  | c :: rest => some (.literal c, rest)

/-- Whether a character may be listed: any of Unicode, or those of ASCII. -/
def admits (flags : Flags) (c : Char) : Bool := flags.unicode || c.toNat < 128

/-- What one element adds to a class; assertions have no place there. -/
def elementSet (flags : Flags) : Atom → Option CodePoints
  | .literal c => if admits flags c then some (.single c) else none
  | .set set => some set
  | .assertion _ => none

/-- The character that decides whether a hyphen makes a range.  In a verbose pattern white space is
passed over on the way to it, but of comments only the first number sign. -/
def afterHyphen (flags : Flags) (rest : Text) : Option Char :=
  if flags.verbose then
    match Text.trimStart rest with
    | '#' :: more => (Text.trimStart more).head?
    | t => t.head?
  else rest.head?

/-- An element of a class, or a range between two characters.  A hyphen before another hyphen or
before the closing bracket makes no range. -/
def element (flags : Flags) (t : Text) : Option (CodePoints × Text) := do
  let (first, rest) ← atom flags t
  match flags.skip rest with
  | [] => none
  | '-' :: more =>
    if afterHyphen flags more == some ']' || afterHyphen flags more == some '-' then
      return (← elementSet flags first, '-' :: more)
    else
      let (last, after) ← atom flags (flags.skip more)
      match first, last with
      | .literal low, .literal high =>
        if low ≤ high && admits flags low && admits flags high then
          return (.between low high, after)
        else none
      | _, _ => none
  | rest => return (← elementSet flags first, rest)

/-- A class with a name, such as `[:alpha:]`, after its opening bracket: its set, and whether the
name is negated. -/
def named? (t : Text) : Option (CodePoints × Bool × Text) :=
  match t with
  | ':' :: rest =>
    let (negated, rest) := match rest with
      | '^' :: rest => (true, rest)
      | rest => (false, rest)
    match rest.dropWhile (· != ':') with
    | ':' :: ']' :: after =>
      (CharClass.named? (rest.takeWhile (· != ':'))).map fun set => (set, negated, after)
    | _ => none
  | _ => none

/-! ### Lists and operations -/

/-- A class that is being read. -/
structure State where
  negated : Bool
  /-- The operation that waits for its right operand, with its left operand. -/
  left : Option (SetOp × Sized)
  /-- What the list read since then holds. -/
  items : CodePoints
  /-- How many elements the list has. -/
  count : Nat
  /-- The height of the highest element. -/
  height : Nat

namespace State

/-- A class without elements. -/
def start (negated : Bool) : State := ⟨negated, none, .empty, 0, 0⟩

/-- The class with one more element. -/
def add (state : State) (item : Sized) : State :=
  { state with
    items := state.items.union item.set, count := state.count + 1,
    height := max state.height item.height }

/-- The list read since the last operation. -/
def list (flags : Flags) (state : State) : Sized :=
  ⟨flags.fold state.items, if state.count < 2 then state.height else state.height + 1⟩

/-- What has been read so far. -/
def value (flags : Flags) (state : State) : Sized :=
  let list := state.list flags
  match state.left with
  | none => list
  | some (op, left) =>
    ⟨flags.fold (op.apply left.set list.set), max left.height list.height + 1⟩

/-- The class after an operator, which takes what has been read as its left operand. -/
def operate (flags : Flags) (state : State) (op : SetOp) : State :=
  { start state.negated with left := some (op, state.value flags) }

/-- The whole class. -/
def close? (flags : Flags) (state : State) : Option Sized := do
  let value := state.value flags
  return ⟨← flags.negateIf state.negated value.set, value.height + 1⟩

end State

/-- The start of a class, after its opening bracket: a possible negation, then hyphens or one
closing bracket that stand for themselves. -/
def opening (flags : Flags) (t : Text) : State × Text :=
  let (negated, t) := match flags.skip t with
    | '^' :: rest => (true, rest)
    | t => (false, t)
  match flags.takeWhile (· == '-') t with
  | ([], ']' :: rest) => ((State.start negated).add ⟨.single ']', 0⟩, rest)
  | (hyphens, rest) =>
    (hyphens.foldl (fun state hyphen => state.add ⟨.single hyphen, 0⟩) (State.start negated), rest)

/-- Reads to the end of the innermost class and of those around it.  Each round reads a character,
so `fuel` need not exceed the length of the text. -/
def rest (flags : Flags) : (fuel : Nat) → State → List State → Text → Option (Sized × Text)
  | 0, _, _, _ => none
  | fuel + 1, state, outer, t =>
    match flags.skip t with
    | [] => none
    | '[' :: after =>
      match named? after with
      | some (set, negated, after) => do
        let set ← flags.negateIf negated (flags.fold set)
        rest flags fuel (state.add ⟨set, 0⟩) outer after
      -- what is not a class with a name is a class inside this one
      | none =>
        let (inner, after) := opening flags after
        rest flags fuel inner (state :: outer) after
    | ']' :: after => do
      let closed ← state.close? flags
      match outer with
      | [] => return (closed, after)
      | next :: more => rest flags fuel (next.add closed) more after
    | '&' :: '&' :: after => rest flags fuel (state.operate flags .inter) outer after
    | '-' :: '-' :: after => rest flags fuel (state.operate flags .diff) outer after
    | '~' :: '~' :: after => rest flags fuel (state.operate flags .symmDiff) outer after
    | t => do
      let (set, after) ← element flags t
      rest flags fuel (state.add ⟨set, 0⟩) outer after

/-- A class, after its opening bracket. -/
def read (flags : Flags) (t : Text) : Option (Sized × Text) :=
  let (state, after) := opening flags t
  rest flags (t.length + 1) state [] after

end TreeQuery.Pattern.Bracket
