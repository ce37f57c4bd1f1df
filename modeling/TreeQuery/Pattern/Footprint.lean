import Std.Data.HashMap
import TreeQuery.Pattern.Expr
import TreeQuery.Text.Utf8

/-!
# The storage of a pattern

A pattern is held back if the automata that it stands for take too much storage.  There are two, one
that reads forwards and knows where groups start and end, and one that reads backwards.  Both read
bytes.  This module does not build them; it adds up their states.

A state takes 32 bytes, and more if it has a list of its own: eight bytes for each byte range that
it can read, and four for each state that it can go on to.
-/

namespace TreeQuery.Pattern

open Text (CodePoints ByteRange)

/-- The most storage that an automaton may take, in bytes. -/
def storageLimit : Nat := 10485760

/-- The automaton that is counted, as far as it goes. -/
structure Automaton where
  /-- How many states there are; the next one gets this number. -/
  states : Nat
  /-- The storage that they take. -/
  storage : Nat

/-- A count that ends as soon as the limit is passed. -/
abbrev Count := StateT Automaton Option

namespace Count

/-- One more state with `extra` bytes of lists, and its number. -/
def state (extra : Nat) : Count Nat := fun a =>
  let next : Automaton := ⟨a.states + 1, a.storage + 32 + extra⟩
  if next.storage ≤ storageLimit then some (a.states, next) else none

/-- A state that only leads on, ends a match, tests an assertion, notes the border of a group or
reads one range of bytes. -/
def plain : Count Unit := discard (state 0)

/-- A state that reads one of several byte ranges. -/
def choice (ranges : Nat) : Count Unit := discard (state (8 * ranges))

/-- A state that goes on to one of several states. -/
def fork (exits : Nat) : Count Unit := discard (state (4 * exits))

/-- A part of the automaton, several times. -/
def times (part : Count Unit) : Nat → Count Unit
  | 0 => pure ()
  | n + 1 => do part; times part n

/-- The parts of the automaton, one after the other. -/
def all : List (Count Unit) → Count Unit
  | [] => pure ()
  | part :: rest => do part; all rest

/-! ### Sets of characters -/

/-- A table with a fixed number of slots.  An entry takes the place of an earlier one in its slot.
-/
structure Slots (Key : Type) where
  size : Nat
  entries : Std.HashMap Nat (Key × Nat)

/-- The slot of a list of numbers: each is mixed into a hash of 64 bits, which is then multiplied.
-/
def slot (size : Nat) (numbers : List Nat) : Nat :=
  (numbers.foldl (fun hash n => ((hash ^^^ n.toUInt64) * 1099511628211))
    (14695981039346656037 : UInt64)).toNat % size

/-- The number noted for a key, if it is still there. -/
def Slots.find? {Key : Type} [BEq Key] (slots : Slots Key) (place : Nat) (key : Key) : Option Nat :=
  match slots.entries[place]? with
  | some (known, number) => if known == key then some number else none
  | none => none

/-- The table with the number of a key noted. -/
def Slots.note {Key : Type} (slots : Slots Key) (place : Nat) (key : Key) (number : Nat) :
    Slots Key :=
  { slots with entries := slots.entries.insert place (key, number) }

/-- The ways on from a state: a byte range and the state that it leads to. -/
abbrev Exits := List (ByteRange × Nat)

/-- A state with the given ways on; one that is still in the table is not made again. -/
def shared (exits : Exits) (slots : Slots Exits) : Count (Nat × Slots Exits) := do
  let place := slot slots.size (exits.flatMap fun (range, next) => [range.first, range.last, next])
  match slots.find? place exits with
  | some number => return (number, slots)
  | none =>
    let number ← state (8 * exits.length)
    return (number, slots.note place exits number)

/-- The states that read one of several sequences of byte ranges and go on to `target`.  Sequences
that start alike share their start; states with the same ways on are shared too.  A sequence has at
most `fuel` ranges. -/
def forwardSequences (target : Nat) : (fuel : Nat) → List (List ByteRange) → Slots Exits →
    Count (Nat × Slots Exits)
  | 0, _, slots => return (target, slots)
  | fuel + 1, sequences, slots =>
    let starts := sequences.splitBy fun s t => s.head? == t.head?
    if sequences.all List.isEmpty then return (target, slots)
    else do
      let (exits, slots) ← starts.foldlM (fun (exits, slots) group => do
        let (next, slots) ← forwardSequences target fuel (group.map List.tail) slots
        return (exits ++ (group.head?.bind List.head?).toList.map (·, next), slots)) ([], slots)
      shared exits slots

/-- The states that read one sequence of byte ranges from its last range backwards, and go on to
`next`. Sequences that start alike share their start. -/
def backwardSequence (next : Nat) : List ByteRange → Slots (Nat × ByteRange) →
    Count (Slots (Nat × ByteRange))
  | [], slots => return slots
  | range :: rest, slots => do
    let place := slot slots.size [next, range.first, range.last]
    match slots.find? place (next, range) with
    | some number => backwardSequence number rest slots
    | none =>
      let number ← state 0
      backwardSequence number rest (slots.note place (next, range) number)

/-- A set of characters.  The members of a set of ASCII characters are single bytes. -/
def set (backwards : Bool) (set : CodePoints) : Count Unit := do
  if (set.changes.getLast?.getD 0) ≤ 0x80 then
    plain
    choice set.ranges.length
  else
    let sequences := set.ranges.flatMap fun (first, last) => Text.Utf8.sequences first last
    if backwards then
      fork sequences.length
      let target ← state 0
      discard (sequences.foldlM (fun slots sequence => backwardSequence target sequence slots)
        ⟨1000, {}⟩)
    else
      let target ← state 0
      discard (forwardSequences target 4 sequences ⟨10000, {}⟩)

/-! ### Alternatives between literals -/

/-- Words cut at the empty ones.  Empty words in front count once. -/
def chunks (words : List (List Nat)) : List (List (List Nat)) :=
  match words.span List.isEmpty with
  | ([], rest) => rest.splitBy (fun _ t => !t.isEmpty) |>.map (·.filter (!·.isEmpty))
  | (_, rest) => [] :: (rest.splitBy (fun _ t => !t.isEmpty) |>.map (·.filter (!·.isEmpty)))

/-- The words that start with each byte, bytes ascending, without that byte. -/
def byFirst (words : List (List Nat)) : List (List (List Nat)) :=
  let starts := (words.filterMap List.head?).eraseDups.mergeSort
  starts.map fun byte => (words.filter (·.head? == some byte)).map List.tail

/-- The states that read one of several words, byte by byte.  A word has at most `fuel` bytes. -/
def words : (fuel : Nat) → List (List Nat) → Count Unit
  | 0, _ => pure ()
  | fuel + 1, list => do
    let parts := chunks list
    let filled ← parts.foldlM (fun filled chunk => do
      let nexts := byFirst chunk
      all (nexts.map fun next => if next.all List.isEmpty then pure () else words fuel next)
      match nexts.length with
      | 0 => return filled
      | 1 => do plain; return filled + 1
      | n => do choice n; return filled + 1) 0
    fork (filled + (parts.length - 1))

/-- The bytes of a literal, in the order of reading. -/
def literalBytes (backwards : Bool) (text : Text) : List Nat :=
  let bytes := text.flatMap Text.Utf8.bytes
  if backwards then bytes.reverse else bytes

/-- The text of a literal. -/
def literal? : Expr → Option Text
  | .literal text => some text
  | _ => none

/-! ### Expressions -/

/-- What is repeated without bound, from the given part. -/
def repeatedFrom (part : Count Unit) (consumes : Bool) : Nat → Count Unit
  | 0 => if consumes then do fork 2; part else do part; fork 2; fork 2; plain
  | n + 1 => do times part (n + 1); fork 2

mutual

/-- The states of an expression. -/
def expr (backwards : Bool) : Expr → Count Unit
  | .empty => plain
  | .literal text => times plain (Text.byteLength text)
  | .one members => set backwards members
  | .assertion _ => plain
  | .group _ body => do
    if backwards then expr backwards body
    else
      plain
      expr backwards body
      plain
  | .seq parts => seq backwards parts
  | .alt branches =>
    match branches.mapM literal? with
    | some texts => do
      plain
      let list := texts.map (literalBytes backwards)
      words ((list.map List.length).foldl max 0 + 1) list
    | none => do
      alt backwards branches.length 0 branches
  | .repeated body least most _ =>
    let consumes := (body.leastLength?.map (· != 0)).getD false
    match least, most with
    | 0, some 1 => do fork 2; expr backwards body; plain
    | least, none => repeatedFrom (expr backwards body) consumes least
    | 0, some 0 => plain
    | least, some most => do
      if least = 0 then plain else times (expr backwards body) least
      if least < most then
        plain
        times (do fork 2; expr backwards body) (most - least)

/-- The states of the parts of a sequence, in the order of reading. -/
def seq (backwards : Bool) : List Expr → Count Unit
  | [] => pure ()
  | e :: rest =>
    if backwards then do seq backwards rest; expr backwards e
    else do expr backwards e; seq backwards rest

/-- The states of the branches.  The one that leads to them and the one after them come third and
fourth. -/
def alt (backwards : Bool) (total : Nat) : (done : Nat) → List Expr → Count Unit
  | _, [] => pure ()
  | done, e :: rest => do
    expr backwards e
    if done = 1 then
      fork total
      plain
    alt backwards total (done + 1) rest

end

/-- The automaton of a whole pattern.  Where a match need not start at the end of the text that is
read first, a loop over all bytes stands in front. -/
def automaton (backwards : Bool) (e : Expr) : Count Unit := do
  if if backwards then e.endsText else e.startsText then plain
  else
    fork 2
    plain
    choice 1
  if backwards then expr backwards e else expr backwards (.group 0 e)
  plain

end Count

/-- Whether both automata of the expression stay within the limit. -/
def Expr.fitsStorage (e : Expr) : Bool :=
  [false, true].all fun backwards => ((Count.automaton backwards e).run ⟨0, 0⟩).isSome

end TreeQuery.Pattern
