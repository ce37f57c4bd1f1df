import TreeQuery.Pattern.Expr

/-!
# Searching a text

A search reads the text once.  The expression is turned into a net whose leaves carry marks: a mark
on a leaf means that some match under way has just read a character there.  At every place the net
tells whether it can be passed without reading, and whether some match under way may end; then it
reads the next character and moves its marks.
-/

namespace TreeQuery.Pattern

open Text (CodePoints)

/-- A place of a text: the characters before and after it. -/
structure Place where
  before : Option Char
  after : Option Char

/-- An expression in the course of a search. -/
inductive Net where
  | empty
  | one (set : CodePoints) (marked : Bool)
  | assertion (condition : Assertion)
  | seq (first second : Net)
  | alt (first second : Net)
  /-- Once or more. -/
  | loop (body : Net)

namespace Net

/-- Whether the net can be passed at a place without reading. -/
def passes (place : Place) : Net → Bool
  | empty => true
  | one _ _ => false
  | assertion condition => condition.holds place.before place.after
  | seq first second => first.passes place && second.passes place
  | alt first second => first.passes place || second.passes place
  | loop body => body.passes place

/-- Whether a match under way can end at a place. -/
def ends (place : Place) : Net → Bool
  | empty => false
  | one _ marked => marked
  | assertion _ => false
  | seq first second => second.ends place || (first.ends place && second.passes place)
  | alt first second => first.ends place || second.ends place
  | loop body => body.ends place

/-- The net after reading a character at a place.  A match may start here if `entered`. -/
def read (place : Place) (c : Char) : (entered : Bool) → Net → Net
  | _, empty => empty
  | entered, one set _ => one set (entered && set.mem c)
  | _, assertion condition => assertion condition
  | entered, seq first second =>
    seq (first.read place c entered)
      (second.read place c (first.ends place || (entered && first.passes place)))
  | entered, alt first second => alt (first.read place c entered) (second.read place c entered)
  | entered, loop body => loop (body.read place c (entered || body.ends place))

/-- The net several times in a row, as a balanced tree. -/
def power (net : Net) (times : Nat) : Net :=
  if times = 0 then empty
  else if times = 1 then net
  else
    let half := net.power (times / 2)
    if times % 2 = 0 then seq half half else seq net (seq half half)
termination_by times

/-- The net or nothing. -/
def optional (net : Net) : Net := alt empty net

/-- A literal, character by character. -/
def ofLiteral (text : Text) : Net :=
  text.foldr (fun c rest => seq (one (CodePoints.single c) false) rest) empty

mutual

/-- The net of an expression, for texts of at most `length` characters.  Of more than `length`
repetitions some read nothing, and one of those is as good as many. -/
def ofExpr (length : Nat) : Expr → Net
  | .empty => empty
  | .literal text => ofLiteral text
  | .one set => one set false
  | .assertion condition => assertion condition
  | .group _ body => ofExpr length body
  | .seq parts => ofParts length parts
  | .alt branches => ofBranches length branches
  | .repeated body least most _ =>
    let body := ofExpr length body
    match least, most with
    | 0, none => body.loop.optional
    | least + 1, none => seq (body.power (min least length)) body.loop
    | least, some most =>
      seq (body.power (min least (length + 1))) (body.optional.power (min (most - least) length))

/-- The nets of the parts in a row. -/
def ofParts (length : Nat) : List Expr → Net
  | [] => empty
  | e :: rest => seq (ofExpr length e) (ofParts length rest)

/-- The net between the nets of the branches. -/
def ofBranches (length : Nat) : List Expr → Net
  | [] => one CodePoints.empty false
  | [e] => ofExpr length e
  | e :: rest => alt (ofExpr length e) (ofBranches length rest)

end

/-- Whether a match starts at or after the place before the text and ends somewhere, or one under
way ends. -/
def occursIn (before : Option Char) (net : Net) : Text → Bool
  | [] => let place := ⟨before, none⟩; net.passes place || net.ends place
  | c :: rest =>
    let place := ⟨before, some c⟩
    net.passes place || net.ends place || (net.read place c true).occursIn (some c) rest

end Net

/-- Whether the expression matches some part of the text. -/
def Expr.occursIn (e : Expr) (t : Text) : Bool := (Net.ofExpr t.length e).occursIn none t

end TreeQuery.Pattern
