import TreeQuery.Text.CodePoints

/-!
# UTF-8, range by range

The UTF-8 forms of a run of characters, as sequences of byte ranges: a sequence of ranges stands for
all choices of one byte from each.  A run of characters of equal width is cut where its last byte,
its last two bytes or its last three bytes are not taken from the full range.
-/

namespace TreeQuery.Text

/-- The bytes from `first` to `last`, both included. -/
structure ByteRange where
  first : Nat
  last : Nat
deriving DecidableEq, Repr

namespace ByteRange

/-- The range of a single byte. -/
def single (byte : Nat) : ByteRange := ⟨byte, byte⟩

/-- What may follow the first byte of a character: any continuation byte. -/
def continuation : ByteRange := ⟨0x80, 0xBF⟩

end ByteRange

namespace Utf8

/-- The sequences for the numbers from `first` to `last` with `tail` more digits of base 64 after
the leading one, to which the byte `lead` is added. -/
def blocks (lead : Nat) : (tail : Nat) → (first last : Nat) → List (List ByteRange)
  | 0, first, last => [[⟨lead + first, lead + last⟩]]
  | tail + 1, first, last =>
    let unit := 64 ^ (tail + 1)
    let low := first / unit
    let high := last / unit
    let under (digit : Nat) (first last : Nat) : List (List ByteRange) :=
      (blocks 0x80 tail first last).map (ByteRange.single (lead + digit) :: ·)
    if low = high then under low (first % unit) (last % unit)
    else
      let cutsFront := first % unit != 0
      let cutsBack := last % unit != unit - 1
      let front := if cutsFront then under low (first % unit) (unit - 1) else []
      let back := if cutsBack then under high 0 (last % unit) else []
      let low := if cutsFront then low + 1 else low
      let high := if cutsBack then high - 1 else high
      let middle :=
        if low ≤ high then
          [⟨lead + low, lead + high⟩ :: List.replicate (tail + 1) ByteRange.continuation]
        else []
      front ++ middle ++ back

/-- The widths of characters: the first code point after those of the width, the leading byte, and
how many bytes follow it. -/
def widths : List (Nat × Nat × Nat) :=
  [(0x80, 0, 0), (0x800, 0xC0, 1), (0x10000, 0xE0, 2), (0x110000, 0xF0, 3)]

/-- The sequences for the characters from `first` to `last`, shorter ones first. -/
def sequences (first last : Nat) : List (List ByteRange) :=
  go 0 widths
where
  go (start : Nat) : List (Nat × Nat × Nat) → List (List ByteRange)
    | [] => []
    | (after, lead, tail) :: wider =>
      let low := max first start
      let high := min last (after - 1)
      (if low ≤ high then blocks lead tail low high else []) ++ go after wider

/-- The bytes of one character. -/
def bytes (c : Char) : List Nat := (String.utf8EncodeChar c).map UInt8.toNat

end Utf8
end TreeQuery.Text
