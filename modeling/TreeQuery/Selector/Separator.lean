/-!
# Separators

Between two compounds of a selector stands a combinator, which relates the elements on its two
sides, or a comma, which starts an alternative.  White space is a combinator too; all others are
written with a character of their own.
-/

namespace TreeQuery.Selector

/-- How the element on the right stands to the element on the left. -/
inductive Combinator where
  /-- Somewhere below it. -/
  | descendant
  /-- Directly below it. -/
  | child
  /-- Right after it under the same parent. -/
  | nextSibling
  /-- Somewhere after it under the same parent. -/
  | subsequentSibling
deriving DecidableEq, Repr

/-- What may stand between two compounds. -/
inductive Separator where
  | comma
  | combinator (relation : Combinator)
deriving DecidableEq, Repr

namespace Separator

/-- The separator that a character stands for. -/
def ofChar? : Char → Option Separator
  | ',' => some .comma
  | '>' => some (.combinator .child)
  | '+' => some (.combinator .nextSibling)
  | '~' => some (.combinator .subsequentSibling)
  | _ => none

/-- The character of a separator; descent is written as a space. -/
def toChar : Separator → Char
  | .comma => ','
  | .combinator .descendant => ' '
  | .combinator .child => '>'
  | .combinator .nextSibling => '+'
  | .combinator .subsequentSibling => '~'

/-- A character stands for the separator that is written with it, descent apart. -/
theorem ofChar?_eq_some_iff {c : Char} {s : Separator} :
    ofChar? c = some s ↔ c = s.toChar ∧ s ≠ .combinator .descendant := by
  constructor
  · intro h
    unfold ofChar? at h
    split at h <;> cases h
    all_goals exact ⟨rfl, by decide⟩
  · rintro ⟨rfl, hs⟩
    rcases s with _ | (_ | _ | _ | _) <;> first | rfl | exact absurd rfl hs

end Separator
end TreeQuery.Selector
