import TreeQuery.Text.Basic

/-!
# Decimal numbers

Numbers are written without leading zeros and a sign only when negative; a run of ASCII digits of
any length reads as the number it denotes.
-/

namespace TreeQuery.Text

/-- The decimal digits of a number. -/
def ofNat (n : Nat) : Text := Nat.toDigits 10 n

/-- The decimal form of an integer, with a minus sign when it is negative. -/
def ofInt (i : Int) : Text := if i < 0 then '-' :: ofNat i.natAbs else ofNat i.natAbs

/-- The number that a run of one or more ASCII digits denotes. -/
def toNat? (t : Text) : Option Nat :=
  if !t.isEmpty && t.all Char.isDigit then some (Nat.ofDigitChars 10 t 0) else none

/-- The integer that a run of ASCII digits with an optional sign in front denotes. -/
def toInt? : Text → Option Int
  | '+' :: digits => (toNat? digits).map Int.ofNat
  | '-' :: digits => (toNat? digits).map fun n => -Int.ofNat n
  | digits => (toNat? digits).map Int.ofNat

/-- The digits of a number read back as that number. -/
theorem toNat?_ofNat (n : Nat) : toNat? (ofNat n) = some n := by
  have nonempty : (ofNat n).isEmpty = false := by simp [ofNat]
  have digits : (ofNat n).all Char.isDigit = true :=
    List.all_eq_true.2 fun _ h => Nat.isDigit_of_mem_toDigits (by decide) (by decide) h
  rw [toNat?, digits, nonempty]
  simp [ofNat, Nat.ofDigitChars_toDigits]

end TreeQuery.Text
