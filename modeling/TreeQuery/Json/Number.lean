import TreeQuery.Json.Fault
import TreeQuery.Text.Basic

/-!
# The numbers of JSON

No number has a place in a document, but one that is written wrongly is a fault of its own, and so
is one out of range.  Range is judged on a decimal with a significand of at most 64 bits: digits
that do not fit count for the magnitude alone.  The value is then the product of two doubles, the
significand and a power of ten.
-/

namespace TreeQuery.Json

/-- A number with at most 53 significant bits that is nearest to `n`; of two it is the even one. -/
def roundToDouble (n : Nat) : Nat :=
  let unit := Nat.pow 2 (n.log2 - 52)
  let whole := n / unit
  let up := unit < 2 * (n % unit) || (unit == 2 * (n % unit) && whole % 2 == 1)
  (if up then whole + 1 else whole) * unit

/-- A decimal number, `significand * 10 ^ exponent`. -/
structure Decimal where
  significand : Nat
  exponent : Int
deriving DecidableEq, Repr

namespace Decimal

/-- Whether the decimal is too large for a double.  The power of ten must be a double itself, and
the product is rounded once more; a small decimal is never out of range. -/
def outOfRange (d : Decimal) : Bool :=
  d.significand != 0 && 0 ≤ d.exponent &&
    (308 < d.exponent ||
      Nat.pow 2 1024 ≤ roundToDouble
        (roundToDouble d.significand * roundToDouble (Nat.pow 10 d.exponent.toNat)))

/-- The fault of a number that is written properly but stands where another type is needed. -/
def fault (d : Decimal) : Fault := if d.outOfRange then .malformed else .mistyped

/-- Takes digits into the significand as long as it stays below `2 ^ 64`, and leaves the others. -/
def takeDigits (significand : Nat) : Text → Nat × Text
  | [] => (significand, [])
  | c :: rest =>
    let next := 10 * significand + (c.toNat - '0'.toNat)
    if c.isDigit && next < Nat.pow 2 64 then takeDigits next rest else (significand, c :: rest)

end Decimal

/-- How many digits the text starts with. -/
def digitCount (t : Text) : Nat := (t.takeWhile Char.isDigit).length

/-- The text without the digits at its start. -/
def dropDigits (t : Text) : Text := t.dropWhile Char.isDigit

/-- The fault of a number in the wrong place, from the sign of its exponent on. -/
def exponentFault (mantissa : Decimal) (t : Text) : Fault :=
  let (negative, digits) := match t with
    | '+' :: rest => (false, rest)
    | '-' :: rest => (true, rest)
    | t => (false, t)
  match digits with
  | [] => .unfinished
  | c :: _ =>
    if c.isDigit then
      let exponent : Int := Nat.ofDigitChars 10 (digits.takeWhile Char.isDigit) 0
      let shift := if negative then -exponent else exponent
      Decimal.fault { mantissa with exponent := mantissa.exponent + shift }
    else .malformed

/-- The fault of a number in the wrong place, from a possible exponent on. -/
def mantissaFault (mantissa : Decimal) (t : Text) : Fault :=
  match t with
  | 'e' :: rest | 'E' :: rest => exponentFault mantissa rest
  | _ => mantissa.fault

/-- The fault of a number in the wrong place, from what follows its integral digits on. -/
def fractionFault (whole : Decimal) (t : Text) : Fault :=
  match t with
  | '.' :: rest =>
    if digitCount rest = 0 then if rest.isEmpty then .unfinished else .malformed
    else
      let (significand, after) := Decimal.takeDigits whole.significand rest
      mantissaFault ⟨significand, whole.exponent - (rest.length - after.length : Nat)⟩
        (dropDigits after)
  | t => mantissaFault whole t

/-- The fault of a number in the wrong place, after its sign: the number itself may be at fault. -/
def numberFault (t : Text) : Fault :=
  match t with
  | [] => .unfinished
  | '0' :: rest => if digitCount rest = 0 then fractionFault ⟨0, 0⟩ rest else .malformed
  | _ =>
    if digitCount t = 0 then .malformed
    else
      let (significand, after) := Decimal.takeDigits 0 t
      fractionFault ⟨significand, digitCount after⟩ (dropDigits after)

/-! ### Numbers that do not matter -/

/-- The text after an exponent whose value does not matter, given what follows its letter. -/
def skipExponent (t : Text) : Except Fault Text :=
  let digits := match t with
    | '+' :: rest | '-' :: rest => rest
    | t => t
  if digitCount digits = 0 then .error .malformed else .ok (dropDigits digits)

/-- The text after a possible exponent. -/
def skipMantissaEnd (t : Text) : Except Fault Text :=
  match t with
  | 'e' :: rest | 'E' :: rest => skipExponent rest
  | t => .ok t

/-- The text after a possible fraction and exponent. -/
def skipFraction (t : Text) : Except Fault Text :=
  match t with
  | '.' :: rest =>
    if digitCount rest = 0 then .error .malformed else skipMantissaEnd (dropDigits rest)
  | t => skipMantissaEnd t

/-- The text after a number whose value does not matter, given what follows its sign.  It is not
told apart whether such a number ends too early or goes wrong. -/
def skipNumber (t : Text) : Except Fault Text :=
  match t with
  | '0' :: rest => if digitCount rest = 0 then skipFraction rest else .error .malformed
  | t => if digitCount t = 0 then .error .malformed else skipFraction (dropDigits t)

end TreeQuery.Json
