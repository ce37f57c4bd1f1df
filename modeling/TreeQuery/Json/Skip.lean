import TreeQuery.Json.Lexical

/-!
# Values that do not matter

The value of an unknown member is read over, however deep it is.  The open lists and objects stand
on a stack.
-/

namespace TreeQuery.Json

/-- An open list or object. -/
inductive Frame where
  | list
  | object
deriving DecidableEq, Repr

/-- What is looked for next inside a value that is read over. -/
inductive Stage where
  /-- A value. -/
  | value
  /-- The first entry of the innermost frame, or its end. -/
  | opened
  /-- A comma, or the end of the innermost frame. -/
  | continued
deriving DecidableEq, Repr

/-- The text after the name and the colon of an object member that is read over. -/
def skipName (t : Text) : Except Fault Text :=
  match skipSpace t with
  | [] => .error .unfinished
  | '"' :: rest =>
    match skipString rest with
    | .error e => .error e
    | .ok after =>
      match skipSpace after with
      | [] => .error .unfinished
      | ':' :: after => .ok after
      | _ => .error .malformed
  | _ => .error .malformed

/-- Reads over what remains of a value.  Every other round reads a character, so `fuel` need not
exceed twice the length of the text by more than two. -/
def skipRest : (fuel : Nat) → Stage → List Frame → Text → Except Fault Text
  | 0, _, _, _ => .error .malformed
  | fuel + 1, .value, frames, t =>
    let finish (result : Except Fault Text) : Except Fault Text :=
      match result with
      | .error e => .error e
      | .ok after => skipRest fuel .continued frames after
    match skipSpace t with
    | [] => .error .unfinished
    | 'n' :: rest => finish (literal "ull".toList rest)
    | 't' :: rest => finish (literal "rue".toList rest)
    | 'f' :: rest => finish (literal "alse".toList rest)
    | '-' :: rest => finish (skipNumber rest)
    | '"' :: rest => finish (skipString rest)
    | '[' :: rest => skipRest fuel .opened (.list :: frames) rest
    | '\x7b' :: rest => skipRest fuel .opened (.object :: frames) rest
    | c :: rest => if c.isDigit then finish (skipNumber (c :: rest)) else .error .malformed
  | _, _, [], t => .ok t
  | fuel + 1, stage, frame :: frames, t =>
    let entry (t : Text) : Except Fault Text :=
      match frame with
      | .list => skipRest fuel .value (frame :: frames) t
      | .object =>
        match skipName t with
        | .error e => .error e
        | .ok after => skipRest fuel .value (frame :: frames) after
    match skipSpace t, frame, stage with
    | [], _, _ => .error .unfinished
    | ',' :: rest, _, .continued => entry rest
    | ']' :: rest, .list, _ => skipRest fuel .continued frames rest
    | '\x7d' :: rest, .object, _ => skipRest fuel .continued frames rest
    | t, _, .opened => entry t
    | _, _, _ => .error .malformed

/-- The text after a value. -/
def skipValue (t : Text) : Except Fault Text := skipRest (2 * t.length + 2) .value [] t

end TreeQuery.Json
