/-!
# Text

A text is a list of characters.  Positions in it count the bytes of its UTF-8 form, and letter case
is that of the ASCII letters alone.  The lemmas say how the measure and the case map act on joined
texts.
-/

namespace TreeQuery

/-- A text, character by character. -/
abbrev Text := List Char

namespace Text

/-- How many bytes the text takes in UTF-8. -/
def byteLength : Text → Nat
  | [] => 0
  | c :: rest => c.utf8Size + byteLength rest

/-- The empty text takes no bytes. -/
@[simp] theorem byteLength_nil : byteLength [] = 0 := rfl

/-- The first character takes its bytes, and the others take theirs. -/
@[simp] theorem byteLength_cons (c : Char) (t : Text) :
    byteLength (c :: t) = c.utf8Size + byteLength t := rfl

/-- Two texts together take the bytes of both. -/
@[simp] theorem byteLength_append (s t : Text) :
    byteLength (s ++ t) = byteLength s + byteLength t := by
  induction s with
  | nil => simp
  | cons c s ih => rw [List.cons_append, byteLength_cons, byteLength_cons, ih, Nat.add_assoc]

/-- The measure is the size of the text as a string. -/
theorem byteLength_eq_utf8ByteSize (t : Text) : byteLength t = (String.ofList t).utf8ByteSize := by
  induction t with
  | nil => simp
  | cons c t ih =>
    rw [byteLength_cons, ih, ← String.utf8ByteSize_singleton, ← String.utf8ByteSize_append,
      String.singleton_eq_ofList, ← String.ofList_append, List.singleton_append]

/-- What is left of a text after its first `n` bytes.  A character is dropped as soon as one of its
bytes is. -/
def dropBytes : Nat → Text → Text
  | _, [] => []
  | n, c :: rest => if n = 0 then c :: rest else dropBytes (n - c.utf8Size) rest

/-- The whole text comes after no bytes. -/
@[simp] theorem dropBytes_zero (t : Text) : dropBytes 0 t = t := by
  cases t <;> simp [dropBytes]

/-- Dropping the bytes of a first part leaves the second. -/
theorem dropBytes_byteLength_append (s t : Text) : dropBytes (byteLength s) (s ++ t) = t := by
  induction s with
  | nil => simp
  | cons c s ih =>
    have h := c.utf8Size_pos
    rw [List.cons_append, dropBytes, byteLength_cons, if_neg (by omega), Nat.add_sub_cancel_left,
      ih]

/-- The text with ASCII capitals written small. -/
def lower (t : Text) : Text := t.map Char.toLower

/-- Two texts may be lower-cased before or after they are put together. -/
@[simp] theorem lower_append (s t : Text) : lower (s ++ t) = lower s ++ lower t := by
  simp [lower]

/-- Lower-casing leaves no ASCII capital. -/
theorem isUpper_toLower (c : Char) : c.toLower.isUpper = false := by
  unfold Char.toLower
  split
  · rename_i capital
    have range : 65 ≤ c.val.toNat ∧ c.val.toNat ≤ 90 := capital
    have moved : (c.val + ('a'.val - 'A'.val)).toNat = c.val.toNat + 32 := by
      rw [UInt32.toNat_add]
      change (c.val.toNat + 32) % 4294967296 = _
      omega
    apply decide_eq_false
    rintro ⟨-, below⟩
    have within : (c.val + ('a'.val - 'A'.val)).toNat ≤ 90 := below
    omega
  · rename_i other
    exact decide_eq_false other

/-- No capital is left in small letters. -/
theorem isUpper_of_mem_lower {t : Text} {c : Char} (h : c ∈ lower t) : c.isUpper = false := by
  obtain ⟨d, -, rfl⟩ := List.mem_map.1 h
  exact isUpper_toLower d

/-- Whether two texts differ at most in the case of ASCII letters. -/
def sameIgnoringCase (s t : Text) : Bool := lower s == lower t

/-- Whether `needle` stands somewhere in the text. -/
def contains (needle : Text) : Text → Bool
  | [] => needle.isEmpty
  | c :: rest => needle.isPrefixOf (c :: rest) || contains needle rest

/-- The text inside single quotes, as error messages show it. -/
def quoted (t : Text) : String := "'" ++ String.ofList t ++ "'"

end Text
end TreeQuery
