import TreeQuery.Json.Number
import TreeQuery.Text.Hex

/-!
# The words of JSON

Strings and literals are read from the front of a text, each with the text after it.
-/

namespace TreeQuery.Json

/-- Whether a character may stand between the words of JSON. -/
def isSpace (c : Char) : Bool := c == ' ' || c == '\n' || c == '\t' || c == '\r'

/-- The text without space at its start. -/
def skipSpace (t : Text) : Text := t.dropWhile isSpace

/-- The text after the rest of a literal. -/
def literal : (expected : Text) → Text → Except Fault Text
  | [], t => .ok t
  | _, [] => .error .unfinished
  | e :: expected, c :: rest => if c = e then literal expected rest else .error .malformed

/-! ### Strings -/

/-- The number that the next four hexadecimal digits make.  Less than four bytes are too few. -/
def hexUnit (t : Text) : Except Fault Nat :=
  if Text.byteLength t < 4 then .error .unfinished
  else
    match (t.take 4).mapM Text.hexDigit? with
    | some [a, b, c, d] => .ok (4096 * a + 256 * b + 16 * c + d)
    | _ => .error .malformed

/-- The second half of a surrogate pair, after the first half. -/
def lowSurrogate (t : Text) : Except Fault Nat :=
  match t with
  | [] | ['\\'] => .error .unfinished
  | '\\' :: 'u' :: rest =>
    match hexUnit rest with
    | .error e => .error e
    | .ok n => if 0xDC00 ≤ n && n ≤ 0xDFFF then .ok (n - 0xDC00) else .error .malformed
  | _ => .error .malformed

/-- The character that an escape stands for, after its backslash, and how many characters the escape
takes. -/
def escape : Text → Except Fault (Char × Nat)
  | [] => .error .unfinished
  | c :: rest =>
    match c with
    | '"' => .ok ('"', 1)
    | '\\' => .ok ('\\', 1)
    | '/' => .ok ('/', 1)
    | 'b' => .ok ('\x08', 1)
    | 'f' => .ok ('\x0c', 1)
    | 'n' => .ok ('\n', 1)
    | 'r' => .ok ('\r', 1)
    | 't' => .ok ('\t', 1)
    | 'u' =>
      match hexUnit rest with
      | .error e => .error e
      | .ok n =>
        if n < 0xD800 || 0xDFFF < n then .ok (Char.ofNat n, 5)
        else if 0xDC00 ≤ n then .error .malformed
        else
          match lowSurrogate (rest.drop 4) with
          | .error e => .error e
          | .ok low => .ok (Char.ofNat (0x10000 + 0x400 * (n - 0xD800) + low), 11)
    | _ => .error .malformed

/-- The content of a string after its opening quote, and the text after its closing quote. -/
def stringBody (t : Text) : Except Fault (Text × Text) :=
  match t with
  | [] => .error .unfinished
  | '"' :: rest => .ok ([], rest)
  | '\\' :: rest =>
    match escape rest with
    | .error e => .error e
    | .ok (c, taken) =>
      match stringBody (rest.drop taken) with
      | .error e => .error e
      | .ok (content, after) => .ok (c :: content, after)
  | c :: rest =>
    if c.toNat < 0x20 then .error .malformed
    else
      match stringBody rest with
      | .error e => .error e
      | .ok (content, after) => .ok (c :: content, after)
termination_by t.length
decreasing_by all_goals simp; try omega

/-- The text after a string whose content does not matter: escapes need four hexadecimal digits, but
not a character that they stand for. -/
def skipString (t : Text) : Except Fault Text :=
  match t with
  | [] | ['\\'] => .error .unfinished
  | '"' :: rest => .ok rest
  | '\\' :: 'u' :: rest =>
    match hexUnit rest with
    | .error e => .error e
    | .ok _ => skipString (rest.drop 4)
  | '\\' :: c :: rest =>
    if "\"\\/bfnrt".toList.contains c then skipString rest else .error .malformed
  | c :: rest => if c.toNat < 0x20 then .error .malformed else skipString rest
termination_by t.length
decreasing_by all_goals simp; try omega

/-! ### Values in the wrong place -/

/-- The fault of a value, or of what should be one, where another type is needed. -/
def wrongType : Text → Fault
  | [] => .unfinished
  | c :: rest =>
    let word (expected : Text) : Fault :=
      match literal expected rest with
      | .error e => e
      | .ok _ => .mistyped
    match c with
    | 'n' => word "ull".toList
    | 't' => word "rue".toList
    | 'f' => word "alse".toList
    | '-' => numberFault rest
    | '"' =>
      match stringBody rest with
      | .error e => e
      | .ok _ => .mistyped
    | '[' | '\x7b' => .mistyped
    | c => if c.isDigit then numberFault (c :: rest) else .malformed

end TreeQuery.Json
