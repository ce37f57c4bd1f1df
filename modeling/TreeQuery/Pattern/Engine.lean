import TreeQuery.Text.Basic

/-!
# Pattern engines

A selector may hold search patterns, and what these mean is not for selectors to say.  An engine
reads a text as a pattern, or says why it is none, and finds patterns in texts.  Selectors are
compiled and met with the help of an engine, and nothing is assumed of it.
-/

namespace TreeQuery

/-- What reads patterns and finds them in texts. -/
class PatternEngine where
  /-- A text that has been read as a pattern. -/
  Compiled : Type
  /-- Reads a text as a pattern, or says why it is none. -/
  compile : Text → Except Text Compiled
  /-- The text that was read. -/
  source : Compiled → Text
  /-- Whether the pattern matches some part of a text. -/
  occursIn : Compiled → Text → Bool

end TreeQuery
