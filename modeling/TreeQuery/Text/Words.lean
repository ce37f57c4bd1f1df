import TreeQuery.Text.Basic
import TreeQuery.Text.Blank

/-!
# Trimming and words

Texts are trimmed of white space at their ends and cut at white space into words.  Collapsing a text
leaves its words with one space between neighbours.
-/

namespace TreeQuery.Text

/-- The text without white space at its start. -/
def trimStart (t : Text) : Text := t.dropWhile isBlank

/-- The text without white space at its end. -/
def trimEnd (t : Text) : Text := (t.reverse.dropWhile isBlank).reverse

/-- The text without white space at either end. -/
def trim (t : Text) : Text := trimEnd (trimStart t)

/-- The pieces between white-space characters, empty ones included. -/
def fields : Text → List Text
  | [] => [[]]
  | c :: rest =>
    if isBlank c then [] :: fields rest
    else
      match fields rest with
      | [] => [[c]]
      | field :: later => (c :: field) :: later

/-- The maximal runs of characters that are not white space. -/
def words (t : Text) : List Text := (fields t).filter fun field => !field.isEmpty

/-- The words of a text with one space between neighbours. -/
def collapse (t : Text) : Text := List.intercalate [' '] (words t)

end TreeQuery.Text
