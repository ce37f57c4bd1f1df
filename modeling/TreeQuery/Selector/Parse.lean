import TreeQuery.Selector.Compound

/-!
# Compiling selectors

A selector is a list of alternatives with commas between them.  Within an alternative the
combinators fold to the left: each new compound holds together with a condition on everything so
far.  A leading combinator relates to the root of the search.
-/

namespace TreeQuery.Selector

variable [PatternEngine]

/-- What has been read of an alternative. -/
inductive Chain where
  | start
  | complete (condition : Condition)
  /-- The combinator at `offset` waits for its right side. -/
  | awaiting (left : Condition) (combinator : Combinator) (offset : Nat)

/-- What has been read of a selector: the finished alternatives, the open one, and where the last
comma stands. -/
structure Progress where
  finished : List Condition
  chain : Chain
  comma : Option Nat

/-- A selector inside the outermost one, where it starts at byte `base`. -/
structure Query where
  text : Text
  base : Nat

/-- What stands at an offset and after it. -/
def Query.textFrom (query : Query) (offset : Nat) : Text :=
  query.text.dropBytes (offset - query.base)

namespace Chain

/-- The chain after a combinator. -/
def combinator (query : Query) (next : Combinator) (offset : Nat) : Chain → Except Error Chain
  | start => .ok (awaiting .scope next offset)
  | complete condition => .ok (awaiting condition next offset)
  | awaiting .. => .error ⟨.unexpected (query.textFrom offset), offset⟩

/-- The chain after a compound. -/
def compound (nested : Nested) (text : Text) (offset : Nat) (chain : Chain) : Except Error Chain :=
  match Compound.read nested text offset with
  | .error e => .error e
  | .ok condition =>
    match chain with
    | start => .ok (complete condition)
    | awaiting left combinator _ => .ok (complete (left.combine combinator condition))
    | complete _ => .error ⟨.unexpected text, offset⟩

/-- The condition of a finished alternative; an empty one is reported at `anchor`. -/
def finish (anchor : Nat) : Chain → Except Error Condition
  | start => .error ⟨.emptyGroup, anchor⟩
  | complete condition => .ok condition
  | awaiting _ combinator offset => .error ⟨.dangling (.combinator combinator), offset⟩

end Chain

namespace Progress

/-- Nothing has been read. -/
def start : Progress := ⟨[], .start, none⟩

/-- The progress after one more token. -/
def step (nested : Nested) (query : Query) (progress : Progress) :
    Token → Except Error Progress
  | .compound text offset =>
    (progress.chain.compound nested text offset).map fun chain => { progress with chain := chain }
  | .separator (.combinator next) offset =>
    (progress.chain.combinator query next offset).map fun chain => { progress with chain := chain }
  | .separator .comma offset =>
    (progress.chain.finish offset).map fun condition =>
      ⟨progress.finished ++ [condition], .start, some offset⟩

/-- The condition of the whole selector. -/
def finish (base : Nat) (progress : Progress) : Except Error Condition :=
  match progress.chain, progress.comma with
  | .start, some offset => .error ⟨.dangling .comma, offset⟩
  | .start, none => .error ⟨.emptyGroup, base⟩
  | chain, _ =>
    (chain.finish base).map fun condition => .anyOf (progress.finished ++ [condition])

end Progress

/-- Compiles a selector, given how the selectors inside it are compiled. -/
def Query.compile (nested : Nested) (query : Query) : Except Error Condition :=
  match (Cursor.start query.base query.text).tokens.1 with
  | .error e => .error e
  | .ok tokens =>
    match tokens.foldlM (Progress.step nested query) Progress.start with
    | .error e => .error e
    | .ok progress => progress.finish query.base

/-- Compiles a selector that starts at byte `base` of the outermost one.  The selectors inside it
are shorter, as each stands between brackets. -/
def parseAt (text : Text) (base : Nat) : Except Error Condition :=
  Query.compile
    (fun inner offset =>
      if _h : inner.length < text.length then parseAt inner offset
      -- no text between brackets is as long as the text around it
      else .error ⟨.emptyGroup, offset⟩)
    ⟨text, base⟩
termination_by text.length

/-- Compiles a selector. -/
def parse (text : Text) : Except Error Condition := parseAt text 0

end TreeQuery.Selector
