import TreeQuery.Pattern.Engine
import TreeQuery.Pattern.Reader
import TreeQuery.Pattern.Search

/-!
# Patterns as written

A pattern is a text together with the expression that it reads as.  Two patterns written the same
are the same.  They make an engine, with which the command is run.
-/

namespace TreeQuery

/-- A search pattern: its text, and what the text reads as. -/
structure Pattern where
  source : Text
  expr : Pattern.Expr
  read_source : Pattern.read? source = some expr

namespace Pattern

/-- The pattern that a text is the written form of, if it is one. -/
def compile? (source : Text) : Option Pattern :=
  match h : read? source with
  | some expr => some ⟨source, expr, h⟩
  | none => none

/-- Patterns are told apart by their text alone. -/
theorem eq_of_source_eq {p q : Pattern} (h : p.source = q.source) : p = q := by
  obtain ⟨s, e, he⟩ := p
  obtain ⟨t, f, hf⟩ := q
  cases h
  cases Option.some.inj (he.symm.trans hf)
  rfl

instance : DecidableEq Pattern := fun p q =>
  if h : p.source = q.source then isTrue (eq_of_source_eq h)
  else isFalse fun heq => h (heq ▸ rfl)

/-- Whether the pattern matches some part of the text. -/
def occursIn (p : Pattern) (t : Text) : Bool := p.expr.occursIn t

/-- The engine of these patterns.  It does not say what is wrong with a text that is no pattern. -/
@[reducible] def engine : PatternEngine where
  Compiled := Pattern
  compile source :=
    match compile? source with
    | some pattern => .ok pattern
    | none => .error "invalid regex".toList
  source := Pattern.source
  occursIn := Pattern.occursIn

end Pattern
end TreeQuery
