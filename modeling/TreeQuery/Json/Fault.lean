/-!
# Faults of JSON texts

Reading stops at the first fault, and says whether the text is malformed there, holds a value of the
wrong type, or ends too early.
-/

namespace TreeQuery.Json

/-- Why a JSON text is refused. -/
inductive Fault where
  /-- The text is not JSON from here on. -/
  | malformed
  /-- A value has the wrong type, or a member is given twice. -/
  | mistyped
  /-- The text ends too early. -/
  | unfinished
deriving DecidableEq, Repr

end TreeQuery.Json
