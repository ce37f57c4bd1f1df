import TreeQuery.Text.Basic
import TreeQuery.Pattern.CharClass

/-!
# Search patterns

A pattern is a regular expression over characters, with assertions about the place between two
characters.  Expressions are built by functions that keep them small: sequences and alternatives do
not nest in themselves, neighbouring literals are one literal, alternatives between single
characters are a set, and what all alternatives start with stands in front of them.
-/

namespace TreeQuery.Pattern

open Text (CodePoints)

/-- What an assertion says about word characters on its two sides. -/
inductive Edge where
  | boundary
  | noBoundary
  | wordStart
  | wordEnd
  | noWordBefore
  | noWordAfter
deriving DecidableEq, Repr

/-- A condition on the place between two characters. -/
inductive Assertion where
  | textStart
  | textEnd
  /-- The start of the text or of a line; line ends are `\n`, or also `\r` and `\r\n`. -/
  | lineStart (carriageReturns : Bool)
  /-- The end of the text or of a line. -/
  | lineEnd (carriageReturns : Bool)
  /-- Words are those of Unicode or those of ASCII. -/
  | edge (kind : Edge) (unicode : Bool)
deriving DecidableEq, Repr

/-- Whether the condition holds between two characters, either of which may be missing. -/
def Assertion.holds (before after : Option Char) : Assertion → Bool
  | textStart => before.isNone
  | textEnd => after.isNone
  | lineStart false => before.all (· == '\n')
  | lineStart true => before.all fun c => c == '\n' || (c == '\r' && after != some '\n')
  | lineEnd false => after.all (· == '\n')
  | lineEnd true => after.all fun c => c == '\r' || (c == '\n' && before != some '\r')
  | edge kind unicode =>
    let left := before.any (CharClass.word unicode).mem
    let right := after.any (CharClass.word unicode).mem
    match kind with
    | .boundary => left != right
    | .noBoundary => left == right
    | .wordStart => !left && right
    | .wordEnd => left && !right
    | .noWordBefore => !left
    | .noWordAfter => !right

/-- A regular expression. -/
inductive Expr where
  | empty
  /-- One or more characters, each standing for itself. -/
  | literal (text : Text)
  /-- Any one character of a set. -/
  | one (set : CodePoints)
  | assertion (condition : Assertion)
  /-- A numbered group. -/
  | group (index : Nat) (body : Expr)
  | seq (parts : List Expr)
  | alt (branches : List Expr)
  /-- At least `least` times, and at most `most` times if that is given.  Greed says which match is
  preferred, and makes no difference to whether there is one. -/
  | repeated (body : Expr) (least : Nat) (most : Option Nat) (greedy : Bool)

namespace Expr

/-! ### Measures -/

mutual

/-- How many bytes a match has at the least; none if some part matches nothing at all. -/
def leastLength? : Expr → Option Nat
  | empty | assertion _ => some 0
  | literal text => some (Text.byteLength text)
  | one set => set.changes.head?.map fun first => (Char.ofNat first).utf8Size
  | group _ body => body.leastLength?
  | seq parts => leastSum? parts
  | alt branches => leastOf? branches
  | repeated body least _ _ => body.leastLength?.map (· * least)

/-- The sum of the least lengths. -/
def leastSum? : List Expr → Option Nat
  | [] => some 0
  | e :: rest =>
    match e.leastLength?, leastSum? rest with
    | some n, some m => some (n + m)
    | _, _ => none

/-- The smallest of the least lengths. -/
def leastOf? : List Expr → Option Nat
  | [] => none
  | [e] => e.leastLength?
  | e :: rest =>
    match e.leastLength?, leastOf? rest with
    | some n, some m => some (min n m)
    | _, _ => none

end

mutual

/-- How many bytes a match has at the most; none if there is no bound, or no match of some part. -/
def mostLength? : Expr → Option Nat
  | empty | assertion _ => some 0
  | literal text => some (Text.byteLength text)
  | one set => set.changes.getLast?.map fun after => (Char.ofNat (after - 1)).utf8Size
  | group _ body => body.mostLength?
  | seq parts => mostSum? parts
  | alt branches => mostOf? branches
  | repeated body _ most _ =>
    match body.mostLength?, most with
    | some n, some m => some (n * m)
    | _, _ => none

/-- The sum of the greatest lengths. -/
def mostSum? : List Expr → Option Nat
  | [] => some 0
  | e :: rest =>
    match e.mostLength?, mostSum? rest with
    | some n, some m => some (n + m)
    | _, _ => none

/-- The largest of the greatest lengths. -/
def mostOf? : List Expr → Option Nat
  | [] => none
  | [e] => e.mostLength?
  | e :: rest =>
    match e.mostLength?, mostOf? rest with
    | some n, some m => some (max n m)
    | _, _ => none

end

mutual

/-- The number of constructors that the expression is made of. -/
def size : Expr → Nat
  | empty | literal _ | one _ | assertion _ => 1
  | group _ body | repeated body _ _ _ => body.size + 1
  | seq parts | alt parts => sizeSum parts + 1

/-- The sum of the sizes. -/
def sizeSum : List Expr → Nat
  | [] => 0
  | e :: rest => e.size + sizeSum rest

end

mutual

/-- Whether two expressions are written in the same way. -/
def same : Expr → Expr → Bool
  | empty, empty => true
  | literal s, literal t => s == t
  | one s, one t => s.changes == t.changes
  | assertion c, assertion d => c == d
  | group i e, group j f => i == j && e.same f
  | seq es, seq fs => sameList es fs
  | alt es, alt fs => sameList es fs
  | repeated e least most greedy, repeated f least' most' greedy' =>
    least == least' && most == most' && greedy == greedy' && e.same f
  | _, _ => false

/-- Whether the expressions of two lists are written in the same way, one by one. -/
def sameList : List Expr → List Expr → Bool
  | [], [] => true
  | e :: es, f :: fs => e.same f && sameList es fs
  | _, _ => false

end

/-! ### Building expressions -/

/-- Any one character of a set; a set of one character is a literal. -/
def ofSet (set : CodePoints) : Expr :=
  match set.only? with
  | some c => literal [c]
  | none => one set

/-- The parts of which an expression is a sequence. -/
def parts : Expr → List Expr
  | empty => []
  | seq parts => parts
  | e => [e]

/-- Parts with one more in front; two literals become one. -/
def consPart : Expr → List Expr → List Expr
  | literal s, literal t :: rest => literal (s ++ t) :: rest
  | e, rest => e :: rest

/-- One expression after the other. -/
def ofParts (es : List Expr) : Expr :=
  match (es.flatMap parts).foldr consPart [] with
  | [] => empty
  | [e] => e
  | parts => seq parts

/-- Some number of times.  What takes no characters is repeated at most once, and to repeat
something exactly once is to leave it alone. -/
def ofRepeated (body : Expr) (least : Nat) (most : Option Nat) (greedy : Bool) : Expr :=
  let (least, most) :=
    if body.mostLength? == some 0 then (min least 1, some ((most.map (min · 1)).getD 1))
    else (least, most)
  if most == some 0 then empty
  else if least == 1 && most == some 1 then body
  else repeated body least most greedy

/-- The expressions between which an expression is an alternative. -/
def branches : Expr → List Expr
  | alt branches => branches
  | e => [e]

/-- The character of a literal that has just one. -/
def onlyChar? : Expr → Option Char
  | literal [c] => some c
  | _ => none

/-- The set that an expression is. -/
def set? : Expr → Option CodePoints
  | one set => some set
  | _ => none

/-- The set that alternatives make if all are single characters, or all are sets. -/
def setOfBranches? (es : List Expr) : Option CodePoints :=
  match es.mapM onlyChar? with
  | some cs => some (CodePoints.unions (cs.map CodePoints.single))
  | none => (es.mapM set?).map CodePoints.unions

/-- How many parts two sequences have in common at their starts. -/
def commonStart : List Expr → List Expr → Nat
  | e :: es, f :: fs => if e.same f then commonStart es fs + 1 else 0
  | _, _ => 0

/-- The parts of a sequence of two or more. -/
def seqParts? : Expr → Option (List Expr)
  | seq parts => some parts
  | _ => none

/-- How many parts all branches start with, if each of them is a sequence. -/
def sharedStart (es : List Expr) : Nat :=
  match es.mapM seqParts? with
  | some (first :: rest) =>
    rest.foldl (fun n parts => commonStart (first.take n) parts) first.length
  | _ => 0

/-- One of several expressions.  What they all start with is taken out in front; each round does so
at one more level, so `fuel` need not exceed the size of the expressions. -/
def ofBranches : (fuel : Nat) → List Expr → Expr
  | 0, es => alt es
  | fuel + 1, es =>
    match es.flatMap branches with
    | [e] => e
    | es =>
      match setOfBranches? es with
      | some set => ofSet set
      | none =>
        match sharedStart es, es with
        | n + 1, first :: _ =>
          let rests := es.map fun e => ofParts (e.parts.drop (n + 1))
          ofParts (first.parts.take (n + 1) ++ [ofBranches fuel rests])
        | _, _ => alt es

/-- One of several expressions. -/
def ofAlternatives (es : List Expr) : Expr := ofBranches (sizeSum es + 1) es

/-! ### Anchors -/

mutual

/-- Whether every match starts at the start of the text, as far as its first assertions say. -/
def startsText : Expr → Bool
  | assertion condition => condition == .textStart
  | group _ body => body.startsText
  | seq parts => anyStartsText parts
  | alt branches => allStartText branches
  | repeated body least _ _ => 0 < least && body.startsText
  | empty | literal _ | one _ => false

/-- Whether a part of a sequence that takes no characters says so, or the first one that does. -/
def anyStartsText : List Expr → Bool
  | [] => false
  | e :: rest => e.startsText || (e.mostLength? == some 0 && anyStartsText rest)

/-- Whether all branches say so. -/
def allStartText : List Expr → Bool
  | [] => true
  | e :: rest => e.startsText && allStartText rest

end

mutual

/-- Whether every match ends at the end of the text, as far as its last assertions say. -/
def endsText : Expr → Bool
  | assertion condition => condition == .textEnd
  | group _ body => body.endsText
  | seq parts => anyEndsText parts
  | alt branches => allEndText branches
  | repeated body least _ _ => 0 < least && body.endsText
  | empty | literal _ | one _ => false

/-- Whether a part of a sequence that takes no characters says so, or the last one that does. -/
def anyEndsText : List Expr → Bool
  | [] => false
  | e :: rest => anyEndsText rest || (mostSum? rest == some 0 && e.endsText)

/-- Whether all branches say so. -/
def allEndText : List Expr → Bool
  | [] => true
  | e :: rest => e.endsText && allEndText rest

end

end Expr
end TreeQuery.Pattern
