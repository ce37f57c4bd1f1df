import TreeQuery.Text.CodePoints

/-!
# White space

White space is what Unicode gives the property White_Space: the ASCII blanks and line ends, and
spaces such as the no-break space and the ideographic space.
-/

namespace TreeQuery.Text

/-- The characters with the property White_Space. -/
def whiteSpace : CodePoints := { changes := [
  9, 14, 32, 33, 133, 134, 160, 161, 5760, 5761, 8192, 8203, 8232, 8234, 8239, 8240, 8287, 8288,
  12288, 12289] }

/-- Whether a character is white space. -/
def isBlank (c : Char) : Bool := whiteSpace.mem c

/-- What the standard library takes for white space is white space here. -/
theorem isBlank_of_isWhitespace {c : Char} (h : c.isWhitespace = true) : isBlank c = true := by
  simp only [Char.isWhitespace, Bool.or_eq_true, decide_eq_true_eq] at h
  rcases h with ((rfl | rfl) | rfl) | rfl <;> decide

end TreeQuery.Text
