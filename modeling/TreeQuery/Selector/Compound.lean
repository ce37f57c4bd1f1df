import TreeQuery.Selector.AttributeTest
import TreeQuery.Selector.Cursor
import TreeQuery.Selector.PseudoClass

/-!
# Compounds

A compound is a run of simple selectors with nothing between them: tags, ids, classes, attribute
tests and pseudo-classes.  All of them must hold of the same element.
-/

namespace TreeQuery.Selector

/-- A tag as trees hold it: in small letters, a namespace set off by a colon. -/
def normalizeTag (written : Text) : Text :=
  Text.lower ((written.dropWhile (· == '|')).map fun c => if c == '|' then ':' else c)

namespace Compound

/-- What is taken is not left. -/
theorem length_rest_takeWhile (p : Char → Bool) (cursor : Cursor) :
    (cursor.takeWhile p).2.rest.length ≤ cursor.rest.length := by
  have := (Cursor.takeWhile_reads p cursor).length_eq
  omega

/-- A region that is read is not left. -/
theorem length_rest_region {brackets : Brackets} {cursor after : Cursor} {body : Text}
    (h : cursor.region brackets = (.ok body, after)) :
    after.rest.length < cursor.rest.length := by
  have := (Cursor.region_reads h).length_eq
  simp at this
  omega

variable [PatternEngine]

/-- A pseudo-class and its argument, read after the colon, which stands at `colon`. -/
def pseudoClass (nested : Nested) (colon : Nat) (cursor : Cursor) :
    Except Error (Condition × Cursor) :=
  let name := cursor.name.1
  let front := cursor.name.2
  if name.isEmpty then .error ⟨.unexpected front.rest, colon⟩
  else if front.peek = some '(' then
    match front.region .round with
    | (.error e, _) => .error e
    | (.ok argument, after) =>
      match PseudoClass.compile nested name colon (some (argument, front.offset + 1)) with
      | .error e => .error e
      | .ok condition => .ok (condition, after)
  else
    match PseudoClass.compile nested name colon none with
    | .error e => .error e
    | .ok condition => .ok (condition, front)

/-- The simple selector that starts with the character `c` at the cursor, with `rest` after it. -/
def simple (nested : Nested) (cursor : Cursor) (c : Char) (rest : Text) :
    Except Error (Condition × Cursor) :=
  let front := cursor.past [c] rest
  let unexpected : Except Error (Condition × Cursor) :=
    .error ⟨.unexpected cursor.rest, cursor.offset⟩
  match c with
  | '#' => if front.name.1.isEmpty then unexpected else .ok (.id front.name.1, front.name.2)
  | '.' => if front.name.1.isEmpty then unexpected else .ok (.hasClass front.name.1, front.name.2)
  | '*' =>
    if front.tag.1.isEmpty then .ok (.universal none, front.tag.2)
    else .ok (.universal (some (normalizeTag front.tag.1)), front.tag.2)
  | '[' =>
    match cursor.region .square with
    | (.error e, _) => .error e
    | (.ok inner, after) =>
      match AttributeTest.read inner cursor.offset with
      | .error e => .error e
      | .ok condition => .ok (condition, after)
  | ':' => pseudoClass nested cursor.offset front
  | c => if isTagChar c then .ok (.tag (normalizeTag cursor.tag.1), cursor.tag.2) else unexpected

/-- A pseudo-class leaves no more than there was. -/
theorem length_rest_pseudoClass {nested : Nested} {colon : Nat} {cursor after : Cursor}
    {condition : Condition} (h : pseudoClass nested colon cursor = .ok (condition, after)) :
    after.rest.length ≤ cursor.rest.length := by
  have named := length_rest_takeWhile isNameChar cursor
  unfold pseudoClass at h
  dsimp only at h
  split at h
  · cases h
  · split at h
    · split at h
      · cases h
      · rename_i hregion
        split at h
        · cases h
        · cases h
          exact Nat.le_of_lt (Nat.lt_of_lt_of_le (length_rest_region hregion) named)
    · split at h
      · cases h
      · cases h
        exact named

/-- A simple selector takes at least one character. -/
theorem length_rest_simple {nested : Nested} {cursor after : Cursor} {c : Char} {rest : Text}
    {condition : Condition} (hrest : cursor.rest = c :: rest)
    (h : simple nested cursor c rest = .ok (condition, after)) :
    after.rest.length < cursor.rest.length := by
  have front : ∀ p, ((cursor.past [c] rest).takeWhile p).2.rest.length < cursor.rest.length := by
    intro p
    have := length_rest_takeWhile p (cursor.past [c] rest)
    rw [hrest]
    exact Nat.lt_succ_of_le this
  unfold simple at h
  dsimp only at h
  split at h
  · split at h
    · cases h
    · cases h; exact front _
  · split at h
    · cases h
    · cases h; exact front _
  · split at h <;> (cases h; exact front _)
  · split at h
    · cases h
    · rename_i hregion
      split at h
      · cases h
      · cases h; exact length_rest_region hregion
  · have := length_rest_pseudoClass h
    rw [hrest]
    exact Nat.lt_succ_of_le this
  · split at h
    · rename_i htag
      cases h
      have := (List.dropWhile_suffix isTagChar (l := rest)).length_le
      simp only [Cursor.tag, Cursor.takeWhile, Cursor.past, hrest, List.dropWhile_cons, htag,
        if_true, List.length_cons]
      omega
    · cases h

/-- The simple selectors from the cursor to the end of its text. -/
def simples (nested : Nested) (cursor : Cursor) : Except Error (List Condition) :=
  match _hrest : cursor.rest with
  | [] => .ok []
  | c :: rest =>
    match _hsimple : simple nested cursor c rest with
    | .error e => .error e
    | .ok (condition, after) =>
      match simples nested after with
      | .error e => .error e
      | .ok conditions => .ok (condition :: conditions)
termination_by cursor.rest.length
decreasing_by exact length_rest_simple _hrest _hsimple

/-- The condition of the compound that starts at `offset`. -/
def read (nested : Nested) (text : Text) (offset : Nat) : Except Error Condition :=
  (simples nested (.start offset text)).map .allOf

end Compound
end TreeQuery.Selector
