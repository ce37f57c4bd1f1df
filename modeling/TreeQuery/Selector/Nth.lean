import TreeQuery.Text.Decimal
import TreeQuery.Text.Words

/-!
# Positions of the form an+b

The argument of the nth pseudo-classes picks every position `step * k + start` with `k` a natural
number.  Coefficients are 32-bit integers, and all arithmetic on them is done in 64 bits, where it
cannot overflow.
-/

namespace TreeQuery.Selector

/-- The positions `step * k + start`, for `k` counting from zero. -/
structure Nth where
  step : Int32
  start : Int32
deriving DecidableEq, Repr

namespace Nth

/-- The number a run of ASCII digits denotes, if it is at most 2147483647. -/
def magnitude? (digits : Text) : Option Int32 :=
  (Text.toNat? digits).bind fun n => if n ≤ 2147483647 then some (Int32.ofNat n) else none

/-- A number with an optional sign, which white space may separate from the digits.  A bare number
is refused where a sign is needed. -/
def signed? (signNeeded : Bool) (t : Text) : Option Int32 :=
  match Text.trim t with
  | '+' :: digits => magnitude? (Text.trimStart digits)
  | '-' :: digits => (magnitude? (Text.trimStart digits)).map fun n => -n
  | digits => if signNeeded then none else magnitude? digits

/-- The factor in front of `n`: one when left out, and then possibly with a sign. -/
def factor? (t : Text) : Option Int32 :=
  match Text.trim t with
  | [] | ['+'] => some 1
  | ['-'] => some (-1)
  | factor => signed? false factor

/-- The summand after `n`: zero when left out, otherwise with a sign. -/
def summand? (t : Text) : Option Int32 :=
  match Text.trim t with
  | [] => some 0
  | summand => signed? true summand

/-- Reads `odd`, `even`, a number, or a formula such as `2n+1` or `-n + 3`, in any case. -/
def read? (t : Text) : Option Nth :=
  let formula := Text.lower (Text.trim t)
  if formula = "odd".toList then some ⟨2, 1⟩
  else if formula = "even".toList then some ⟨2, 0⟩
  else
    match formula.dropWhile (· != 'n') with
    | [] => (signed? false formula).map fun start => ⟨0, start⟩
    | _ :: summand => do
      let step ← factor? (formula.takeWhile (· != 'n'))
      let start ← summand? summand
      return ⟨step, start⟩

/-- Whether `position` is `step * k + start` for some natural number `k`. -/
def includes (nth : Nth) (position : Int32) : Bool :=
  let step := nth.step.toInt64
  let distance := position.toInt64 - nth.start.toInt64
  if nth.step = 0 then position == nth.start
  else decide (0 ≤ distance * step) && distance % step == 0

/-- The formula as written: a number, `an`, or `an` and a summand with its sign. -/
def render (nth : Nth) : Text :=
  let step := Text.ofInt nth.step.toInt
  let start := Text.ofInt nth.start.toInt
  if nth.step = 0 then start
  else if nth.start = 0 then step ++ ['n']
  else if nth.start < 0 then step ++ 'n' :: start
  else step ++ 'n' :: '+' :: start

end Nth
end TreeQuery.Selector
