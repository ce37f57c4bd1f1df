import TreeQuery.Text.Basic

/-!
# Backslash escapes

A backslash stands for the character after it.  A backslash with nothing after it stands for
nothing.
-/

namespace TreeQuery.Text

/-- The text with every backslash escape replaced by the character it stands for. -/
def unescape : Text → Text
  | [] => []
  | ['\\'] => []
  | '\\' :: c :: rest => c :: unescape rest
  | c :: rest => c :: unescape rest

end TreeQuery.Text
