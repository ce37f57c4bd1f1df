import TreeQuery.Text.Alphanumeric
import TreeQuery.Text.Decimal
import TreeQuery.Text.Words
import TreeQuery.Pattern.Bracket
import TreeQuery.Pattern.Footprint

/-!
# Reading patterns

The written form of a search pattern: literals, escapes, classes in square brackets, groups with
flags, repetition and assertions.  There are no back references and no look-around.  A pattern that
breaks the grammar, that could match part of a character, that nests too deep or that takes too much
storage has no reading.
-/

namespace TreeQuery.Pattern.Read

open Text (CodePoints)

/-! ### Repetition -/

/-- A number of decimal digits below `2 ^ 32`, if there is one, and the text after it.  White space
may stand around the digits. -/
def count (flags : Flags) (t : Text) : Option Nat × Text :=
  let (digits, rest) := flags.takeWhile Char.isDigit (Text.trimStart t)
  ((Text.toNat? digits).filter (· < Nat.pow 2 32), Text.trimStart rest)

/-- The numbers of a counted repetition, after its opening brace. -/
def counts (flags : Flags) (t : Text) : Option ((Nat × Option Nat) × Text) := do
  let (low, rest) := count flags (flags.skip t)
  let low ← low
  match rest with
  | '\x7d' :: after => return ((low, some low), after)
  | ',' :: rest =>
    match flags.skip rest with
    | '\x7d' :: after => return ((low, none), after)
    | rest =>
      let (high, rest) := count flags rest
      let high ← high
      match rest with
      | '\x7d' :: after => if low ≤ high then some ((low, some high), after) else none
      | _ => none
  | _ => none

/-! ### Groups -/

/-- Letters of flags up to the colon or bracket that ends them.  No letter may be given twice, and a
hyphen, after which flags are cleared, must be followed by one. -/
def flagLetters (flags : Flags) (cleared : Bool) (seen : List Char) (dangling : Bool) :
    Text → Option (Flags × Char × Text)
  | [] => none
  | ':' :: rest => if dangling then none else some (flags, ':', rest)
  | ')' :: rest => if dangling || seen.isEmpty then none else some (flags, ')', rest)
  | '-' :: rest => if cleared then none else flagLetters flags true seen true rest
  | c :: rest =>
    if seen.contains c then none
    else
      match flags.set (!cleared) c with
      | none => none
      | some flags => flagLetters flags cleared (c :: seen) false rest

/-- Whether a character may start the name of a group. -/
def isNameStart (c : Char) : Bool := c == '_' || Text.isAlphabetic c

/-- Whether a character may stand inside the name of a group. -/
def isNameRest (c : Char) : Bool :=
  c == '_' || c == '.' || c == '[' || c == ']' || Text.isAlphanumeric c

/-- The name of a group, after its opening angle bracket. -/
def groupName (t : Text) : Option (Text × Text) :=
  match t.takeWhile (· != '>'), t.dropWhile (· != '>') with
  | c :: more, _ :: after =>
    if isNameStart c && more.all isNameRest then some (c :: more, after) else none
  | _, _ => none

/-- An expression, and how deep the pattern nests that it was read from. -/
structure Sized where
  expr : Expr
  height : Nat

/-- An item of a sequence. -/
inductive Item where
  | expr (e : Sized)
  /-- Flags set in passing, which cannot be repeated. -/
  | flags

/-- The expression of an item, if it has one. -/
def Item.expr? : Item → Option Expr
  | expr e => some e.expr
  | flags => none

/-- How deep an item nests. -/
def Item.height : Item → Nat
  | expr e => e.height
  | flags => 0

/-- The height of a list of parts: one part does not nest in a list. -/
def listHeight (heights : List Nat) : Nat :=
  match heights with
  | [] => 0
  | [h] => h
  | hs => hs.foldl max 0 + 1

/-- A group that is being read. -/
structure Group where
  /-- The number of the group, if it has one. -/
  index : Option Nat
  /-- The finished alternatives, last first. -/
  branches : List Sized
  /-- The items of the open alternative, last first. -/
  items : List Item
  /-- The flags that hold again after the group. -/
  outside : Flags

namespace Group

/-- The open alternative as one expression. -/
def branch (group : Group) : Sized :=
  ⟨Expr.ofParts (group.items.reverse.filterMap Item.expr?),
    listHeight (group.items.map Item.height)⟩

/-- What is inside the group, as one expression. -/
def inside (group : Group) : Sized :=
  match group.branches with
  | [] => group.branch
  | before =>
    let branches := (group.branch :: before).reverse
    ⟨Expr.ofAlternatives (branches.map Sized.expr), listHeight (branches.map Sized.height)⟩

/-- The group as one expression. -/
def value (group : Group) : Sized :=
  let inside := group.inside
  match group.index with
  | none => ⟨inside.expr, inside.height + 1⟩
  | some index => ⟨.group index inside.expr, inside.height + 1⟩

/-- The group with one more item. -/
def add (group : Group) (item : Item) : Group := { group with items := item :: group.items }

/-- The group with a new alternative open. -/
def nextBranch (group : Group) : Group :=
  { group with branches := group.branch :: group.branches, items := [] }

/-- The group with its last item repeated; flags and nothing at all cannot be. -/
def repeatLast (group : Group) (least : Nat) (most : Option Nat) (greedy : Bool) : Option Group :=
  match group.items with
  | .expr e :: before =>
    let item := .expr ⟨Expr.ofRepeated e.expr least most greedy, e.height + 1⟩
    some { group with items := item :: before }
  | _ => none

end Group

/-! ### The whole pattern -/

/-- A pattern that is being read. -/
structure State where
  flags : Flags
  /-- The innermost open group. -/
  group : Group
  /-- The groups around it, innermost first. -/
  outer : List Group
  /-- How many groups have a number so far. -/
  groups : Nat
  /-- The names given to groups so far. -/
  names : List Text

namespace State

/-- Before the first character. -/
def start : State := ⟨.standard, ⟨none, [], [], .standard⟩, [], 0, []⟩

/-- Opens a group without a number. -/
def enter (state : State) (flags : Flags) : State :=
  { state with
    flags := flags, group := ⟨none, [], [], state.flags⟩, outer := state.group :: state.outer }

/-- Opens a group with the next number. -/
def enterNumbered (state : State) : State :=
  { state with
    group := ⟨some (state.groups + 1), [], [], state.flags⟩, outer := state.group :: state.outer,
    groups := state.groups + 1 }

/-- Opens a group with the next number and a name of its own. -/
def enterNamed (state : State) (name : Text) : Option State :=
  if state.names.contains name then none
  else some { state.enterNumbered with names := name :: state.names }

/-- The pattern with one more item in the open group. -/
def add (state : State) (item : Item) : State := { state with group := state.group.add item }

/-- Closes the innermost group. -/
def leave (state : State) : Option State :=
  match state.outer with
  | [] => none
  | next :: more =>
    some { state with
      flags := state.group.outside, group := next.add (.expr state.group.value), outer := more }

end State

/-- The expression of a literal. -/
def literalExpr (flags : Flags) (c : Char) : Expr :=
  if flags.ignoreCase then Expr.ofSet (flags.fold (.single c)) else .literal [c]

/-- The expression of an element outside classes. -/
def atomExpr (flags : Flags) : Atom → Expr
  | .literal c => literalExpr flags c
  | .set set => Expr.ofSet set
  | .assertion condition => .assertion condition

/-- The characters that the dot does not stand for. -/
def lineEnds (flags : Flags) : CodePoints :=
  if flags.dotAll then .empty
  else if flags.carriageReturns then (CodePoints.single '\n').union (.single '\r')
  else .single '\n'

/-- Reads on after an opening round bracket. -/
def openGroup (state : State) (t : Text) : Option (State × Text) :=
  let named (rest : Text) : Option (State × Text) := do
    let (name, after) ← groupName rest
    return (← state.enterNamed name, after)
  match state.flags.skip t with
  | '?' :: 'P' :: '<' :: rest => named rest
  | '?' :: '<' :: rest => named rest
  | '?' :: rest =>
    match flagLetters state.flags false [] false rest with
    | none => none
    | some (flags, ':', after) => some (state.enter flags, after)
    | some (flags, _, after) => some ({ state.add .flags with flags := flags }, after)
  | t => some (state.enterNumbered, t)

/-- Repeats the last item, lazily if a question mark follows. -/
def repeatLast (state : State) (least : Nat) (most : Option Nat) (t : Text) :
    Option (State × Text) := do
  let (lazy, after) := match t with
    | '?' :: after => (true, after)
    | t => (false, t)
  let group ← state.group.repeatLast least most (lazy == state.flags.swapGreed)
  return ({ state with group := group }, after)

/-- Reads one element, bracket or operator that starts with `c`. -/
def step (state : State) (c : Char) (rest : Text) : Option (State × Text) :=
  let flags := state.flags
  let element (e : Expr) (height : Nat) (after : Text) : Option (State × Text) :=
    some (state.add (.expr ⟨e, height⟩), after)
  match c with
  | '(' => openGroup state rest
  | ')' => state.leave.map (·, rest)
  | '|' => some ({ state with group := state.group.nextBranch }, rest)
  | '[' => do
    let (sized, after) ← Bracket.read flags rest
    element (Expr.ofSet sized.set) sized.height after
  | '?' => repeatLast state 0 (some 1) rest
  | '*' => repeatLast state 0 none rest
  | '+' => repeatLast state 1 none rest
  | '\x7b' => do
    let ((least, most), after) ← counts flags rest
    repeatLast state least most (flags.skip after)
  | '\\' => do
    let (atom, after) ← Escape.read flags rest
    element (atomExpr flags atom) 0 after
  | '.' => do
    let set ← flags.negate (lineEnds flags)
    element (Expr.ofSet set) 0 rest
  | '^' =>
    let condition := if flags.multiLine then .lineStart flags.carriageReturns else .textStart
    element (.assertion condition) 0 rest
  | '$' =>
    let condition := if flags.multiLine then .lineEnd flags.carriageReturns else .textEnd
    element (.assertion condition) 0 rest
  | c => element (literalExpr flags c) 0 rest

/-- Reads to the end of the pattern.  Each round reads a character, so `fuel` need not exceed the
length of the text. -/
def run : (fuel : Nat) → State → Text → Option Sized
  | 0, _, _ => none
  | fuel + 1, state, t =>
    match state.flags.skip t with
    | [] => if state.outer.isEmpty then some state.group.inside else none
    | c :: rest => do
      let (state, after) ← step state c rest
      run fuel state after

end Read

/-- How deep a pattern may nest. -/
def heightLimit : Nat := 250

/-- The expression that a written pattern stands for, if it has one. -/
def read? (t : Text) : Option Expr := do
  let sized ← Read.run (t.length + 1) Read.State.start t
  if sized.height ≤ heightLimit && sized.expr.fitsStorage then some sized.expr else none

end TreeQuery.Pattern
