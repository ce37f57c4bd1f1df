/-!
# Sets of code points

A set of code points is kept as the ascending list of the places where membership changes: `[a, b,
c, d]` holds the code points from `a` up to but not including `b`, and those from `c` up to but not
including `d`.  Any Boolean operation on two sets is one walk along their two lists.  The main
statement is that membership in the result is the operation on the two memberships.
-/

namespace TreeQuery.Text

/-- No place comes before `low`, and each place comes after the one before it. -/
def AscendingFrom (low : Nat) : List Nat → Prop
  | [] => True
  | a :: later => low ≤ a ∧ AscendingFrom (a + 1) later

instance decidableAscendingFrom : ∀ (low : Nat) (l : List Nat), Decidable (AscendingFrom low l)
  | _, [] => isTrue trivial
  | low, a :: later =>
    have := decidableAscendingFrom (a + 1) later
    inferInstanceAs (Decidable (low ≤ a ∧ AscendingFrom (a + 1) later))

/-- A list that starts late enough also starts after an earlier place. -/
theorem AscendingFrom.weaken {low low' : Nat} {l : List Nat} (h : AscendingFrom low l)
    (hle : low' ≤ low) : AscendingFrom low' l := by
  cases l with
  | nil => trivial
  | cons a later => exact ⟨Nat.le_trans hle h.1, h.2⟩

/-- A set of code points, as the places at which membership changes; below the first of them nothing
belongs. -/
structure CodePoints where
  changes : List Nat
  ascending : AscendingFrom 0 changes := by decide +kernel

namespace CodePoints

/-! ### Membership -/

/-- Whether `n` belongs, when everything before the first change is `inside`. -/
def holdsFrom (inside : Bool) : List Nat → Nat → Bool
  | [], _ => inside
  | change :: later, n => if n < change then inside else holdsFrom (!inside) later n

/-- Whether a code point belongs to the set. -/
def holds (set : CodePoints) (n : Nat) : Bool := holdsFrom false set.changes n

/-- Whether a character belongs to the set. -/
def mem (set : CodePoints) (c : Char) : Bool := set.holds c.toNat

/-- Before a place membership is what it was. -/
theorem holdsFrom_cons_of_lt {change n : Nat} (h : n < change) (inside : Bool) (later : List Nat) :
    holdsFrom inside (change :: later) n = inside := if_pos h

/-- From a place on membership is the other way round. -/
theorem holdsFrom_cons_of_le {change n : Nat} (h : change ≤ n) (inside : Bool) (later : List Nat) :
    holdsFrom inside (change :: later) n = holdsFrom (!inside) later n := if_neg (by omega)

/-- Before the first change nothing changes. -/
theorem holdsFrom_of_lt {low n : Nat} {l : List Nat} (h : AscendingFrom low l) (hn : n < low)
    (inside : Bool) : holdsFrom inside l n = inside := by
  cases l with
  | nil => rfl
  | cons a later => rw [holdsFrom, if_pos (Nat.lt_of_lt_of_le hn h.1)]

/-! ### Boolean operations -/

/-- The list with one more place in front, if membership does change there. -/
def mark (changes : Bool) (place : Nat) (later : List Nat) : List Nat :=
  if changes then place :: later else later

/-- Walks along the second list up to the place `a` of the first one, and on with `rest`. -/
def combineAt (f : Bool → Bool → Bool) (x : Bool) (a : Nat) (rest : Bool → List Nat → List Nat) :
    Bool → List Nat → List Nat
  | y, [] => mark (f x y != f (!x) y) a (rest y [])
  | y, b :: later =>
    if b < a then mark (f x y != f x !y) b (combineAt f x a rest (!y) later)
    else if b = a then mark (f x y != f (!x) !y) a (rest (!y) later)
    else mark (f x y != f (!x) y) a (rest y (b :: later))

/-- The places where `f` of two memberships changes; before them the memberships are `x` and `y`. -/
def combine (f : Bool → Bool → Bool) : Bool → Bool → List Nat → List Nat → List Nat
  | x, _, [], later => if f x false != f x true then later else []
  | x, y, a :: before, later => combineAt f x a (fun y => combine f (!x) y before) y later

/-- A mark may be put in front of a list that starts after it. -/
theorem ascendingFrom_mark {low place : Nat} {later : List Nat} (hlow : low ≤ place)
    (h : AscendingFrom (place + 1) later) (changes : Bool) :
    AscendingFrom low (mark changes place later) := by
  cases changes with
  | false => exact h.weaken (Nat.le_succ_of_le hlow)
  | true => exact ⟨hlow, h⟩

/-- Membership after a place that may have been marked. -/
theorem holdsFrom_mark {place : Nat} {later : List Nat} (h : AscendingFrom (place + 1) later)
    (before after : Bool) (n : Nat) :
    holdsFrom before (mark (before != after) place later) n =
      if n < place then before else holdsFrom after later n := by
  by_cases hb : before = after
  · subst hb
    simp only [mark, bne_self_eq_false, Bool.false_eq_true, if_false]
    split
    · exact holdsFrom_of_lt h (by omega) before
    · rfl
  · have : after = !before := by cases before <;> cases after <;> simp_all
    subst this
    simp [mark, holdsFrom]

/-- Walking along a list up to a place makes an ascending list. -/
theorem ascendingFrom_combineAt {f : Bool → Bool → Bool} {x : Bool} {a : Nat}
    {rest : Bool → List Nat → List Nat}
    (hrest : ∀ y l, AscendingFrom (a + 1) l → AscendingFrom (a + 1) (rest y l))
    {low : Nat} (hlow : low ≤ a) (y : Bool) {l : List Nat} (h : AscendingFrom low l) :
    AscendingFrom low (combineAt f x a rest y l) := by
  induction l generalizing low y with
  | nil => exact ascendingFrom_mark hlow (hrest _ [] trivial) _
  | cons b later ih =>
    obtain ⟨hb, hlater⟩ := h
    rw [combineAt]
    split
    · exact ascendingFrom_mark hb (ih (by omega) _ hlater) _
    split
    · rename_i heq
      exact ascendingFrom_mark hlow (hrest _ _ (heq ▸ hlater)) _
    · exact ascendingFrom_mark hlow (hrest _ (b :: later) ⟨by omega, hlater⟩) _

/-- Walking along two lists makes an ascending list. -/
theorem ascendingFrom_combine (f : Bool → Bool → Bool) {s : List Nat} (x y : Bool) {low : Nat}
    {t : List Nat} (hs : AscendingFrom low s) (ht : AscendingFrom low t) :
    AscendingFrom low (combine f x y s t) := by
  induction s generalizing low x y t with
  | nil =>
    rw [combine]
    split
    · exact ht
    · trivial
  | cons a later ih =>
    exact ascendingFrom_combineAt (fun _ _ h => ih _ _ hs.2 h) hs.1 y ht

/-- Membership along the walk up to a place, given what membership is along the rest of it. -/
theorem holdsFrom_combineAt {f : Bool → Bool → Bool} {x : Bool} {a : Nat} {s : List Nat}
    {rest : Bool → List Nat → List Nat}
    (hrest : ∀ y l, AscendingFrom (a + 1) l → AscendingFrom (a + 1) (rest y l))
    (hholds : ∀ y l n, AscendingFrom (a + 1) l →
      holdsFrom (f (!x) y) (rest y l) n = f (holdsFrom (!x) s n) (holdsFrom y l n))
    {low : Nat} (hlow : low ≤ a) (y : Bool) {l : List Nat} (h : AscendingFrom low l) (n : Nat) :
    holdsFrom (f x y) (combineAt f x a rest y l) n =
      f (if n < a then x else holdsFrom (!x) s n) (holdsFrom y l n) := by
  induction l generalizing low y with
  | nil =>
    have hnil : AscendingFrom (a + 1) [] := trivial
    rw [combineAt, holdsFrom_mark (hrest _ _ hnil), hholds _ _ _ hnil]
    split <;> rfl
  | cons b later ih =>
    obtain ⟨hb, hlater⟩ := h
    rw [combineAt]
    split
    · rename_i hba
      rw [holdsFrom_mark (ascendingFrom_combineAt hrest (by omega) _ hlater),
        ih (by omega) _ hlater, holdsFrom.eq_2 y]
      split
      · rw [if_pos (by omega)]
      · rfl
    split
    · rename_i _ heq
      subst heq
      rw [holdsFrom_mark (hrest _ _ hlater), hholds _ _ _ hlater, holdsFrom.eq_2 y]
      split <;> rfl
    · have hl : AscendingFrom (a + 1) (b :: later) := ⟨by omega, hlater⟩
      rw [holdsFrom_mark (hrest _ _ hl), hholds _ _ _ hl]
      split
      · rw [holdsFrom_of_lt hl (by omega)]
      · rfl

/-- A function that tells the two answers apart may be applied before or after the look-up. -/
theorem holdsFrom_apply {g : Bool → Bool} (hg : g false ≠ g true) (inside : Bool) (l : List Nat)
    (n : Nat) : holdsFrom (g inside) l n = g (holdsFrom inside l n) := by
  have hnot : ∀ b : Bool, g (!b) = !(g b) := by
    intro b
    cases b with
    | false => exact Bool.eq_not.2 hg.symm
    | true => exact Bool.eq_not.2 hg
  induction l generalizing inside with
  | nil => rfl
  | cons a later ih =>
    rw [holdsFrom, holdsFrom.eq_2 inside, ← hnot, ih]
    split <;> rfl

/-- Membership in the combination is the combination of the memberships. -/
theorem holdsFrom_combine (f : Bool → Bool → Bool) {s : List Nat} (x y : Bool) {low : Nat}
    {t : List Nat} (hs : AscendingFrom low s) (ht : AscendingFrom low t) (n : Nat) :
    holdsFrom (f x y) (combine f x y s t) n = f (holdsFrom x s n) (holdsFrom y t n) := by
  induction s generalizing low x y t n with
  | nil =>
    rw [combine, holdsFrom.eq_1]
    split
    · rename_i hne
      exact holdsFrom_apply (by simpa using hne) y t n
    · rename_i heq
      have hc : f x false = f x true := by simpa using heq
      rw [holdsFrom.eq_1]
      cases y <;> cases holdsFrom _ t n <;> simp [hc]
  | cons a later ih =>
    exact holdsFrom_combineAt (fun _ _ h => ascendingFrom_combine f _ _ hs.2 h)
      (fun _ _ _ h => ih _ _ hs.2 h _) hs.1 y ht n

/-! ### Sets -/

/-- The set with no members. -/
def empty : CodePoints := ⟨[], trivial⟩

/-- The code points from `first` to `last`, both included. -/
def range (first last : Nat) : CodePoints :=
  if h : first ≤ last then ⟨[first, last + 1], ⟨Nat.zero_le _, Nat.succ_le_succ h, trivial⟩⟩
  else empty

/-- The set of one character. -/
def single (c : Char) : CodePoints := range c.toNat c.toNat

/-- The code points of characters: all but the surrogates. -/
def all : CodePoints := ⟨[0, 0xD800, 0xE000, 0x110000], by decide⟩

/-- The ASCII characters. -/
def ascii : CodePoints := range 0 0x7f

/-- The set whose membership is `f` of the memberships in two sets. -/
def merge (f : Bool → Bool → Bool) (s t : CodePoints) : CodePoints :=
  ⟨combine f false false s.changes t.changes,
    ascendingFrom_combine f false false s.ascending t.ascending⟩

/-- The members of either set. -/
def union : CodePoints → CodePoints → CodePoints := merge or

/-- The members of both sets. -/
def inter : CodePoints → CodePoints → CodePoints := merge and

/-- The members of the first set that are not in the second. -/
def diff : CodePoints → CodePoints → CodePoints := merge fun x y => x && !y

/-- The members of exactly one of two sets. -/
def symmDiff : CodePoints → CodePoints → CodePoints := merge xor

/-- The characters that are not in the set. -/
def complement (s : CodePoints) : CodePoints := all.diff s

/-- The characters from `first` to `last`, both included. -/
def between (first last : Char) : CodePoints := (range first.toNat last.toNat).inter all

/-- Sets united two by two. -/
def uniteNeighbours : List CodePoints → List CodePoints
  | s :: t :: rest => s.union t :: uniteNeighbours rest
  | sets => sets

/-- The union of a list of sets.  Neighbours are united until one set is left, so that no list is
walked along more often than the number of sets has binary digits. -/
def unions (sets : List CodePoints) : CodePoints :=
  (Nat.repeat uniteNeighbours (sets.length.log2 + 1) sets).foldr union empty

/-- Membership in the merged set is the operation on the two memberships. -/
theorem holds_merge {f : Bool → Bool → Bool} (hf : f false false = false) (s t : CodePoints)
    (n : Nat) : (merge f s t).holds n = f (s.holds n) (t.holds n) := by
  have := holdsFrom_combine f false false s.ascending t.ascending n
  rwa [hf] at this

/-- Nothing belongs to the empty set. -/
@[simp] theorem mem_empty (c : Char) : empty.mem c = false := rfl

/-- What belongs to a union. -/
@[simp] theorem mem_union (s t : CodePoints) (c : Char) :
    (s.union t).mem c = (s.mem c || t.mem c) := holds_merge rfl s t _

/-- What belongs to an intersection. -/
@[simp] theorem mem_inter (s t : CodePoints) (c : Char) :
    (s.inter t).mem c = (s.mem c && t.mem c) := holds_merge rfl s t _

/-- What belongs to a difference. -/
@[simp] theorem mem_diff (s t : CodePoints) (c : Char) :
    (s.diff t).mem c = (s.mem c && !t.mem c) :=
  holds_merge (f := fun x y => x && !y) rfl s t _

/-- What belongs to a symmetric difference. -/
@[simp] theorem mem_symmDiff (s t : CodePoints) (c : Char) :
    (s.symmDiff t).mem c = (s.mem c ^^ t.mem c) := holds_merge rfl s t _

/-- Every character is in the full set. -/
@[simp] theorem mem_all (c : Char) : all.mem c = true := by
  have hc := c.valid
  rcases hc with h | ⟨h, h'⟩
  · have : c.toNat < 0xD800 := h
    simp [mem, holds, all, holdsFrom, this]
  · have h1 : 0xDFFF < c.toNat := h
    have h2 : c.toNat < 0x110000 := h'
    have h3 : ¬c.toNat < 55296 := by omega
    have h4 : ¬c.toNat < 57344 := by omega
    simp [mem, holds, all, holdsFrom, h2, h3, h4]

/-- What belongs to a complement. -/
@[simp] theorem mem_complement (s : CodePoints) (c : Char) : s.complement.mem c = !s.mem c := by
  simp [complement]

/-- Uniting neighbours loses no member and adds none. -/
theorem any_mem_uniteNeighbours (sets : List CodePoints) (c : Char) :
    (uniteNeighbours sets).any (·.mem c) = sets.any (·.mem c) := by
  fun_induction uniteNeighbours sets with
  | case1 s t rest ih => simp [ih, Bool.or_assoc]
  | case2 => rfl

/-- Nor does uniting them again and again. -/
theorem any_mem_repeat (rounds : Nat) (sets : List CodePoints) (c : Char) :
    (Nat.repeat uniteNeighbours rounds sets).any (·.mem c) = sets.any (·.mem c) := by
  induction rounds with
  | zero => rfl
  | succ rounds ih => rw [Nat.repeat, any_mem_uniteNeighbours, ih]

/-- What belongs to a union of several sets. -/
@[simp] theorem mem_unions (sets : List CodePoints) (c : Char) :
    (unions sets).mem c = sets.any (·.mem c) := by
  rw [unions, ← any_mem_repeat (sets.length.log2 + 1)]
  induction Nat.repeat uniteNeighbours (sets.length.log2 + 1) sets with
  | nil => rfl
  | cons s rest ih => simp [ih]

/-- The first and the last code point of each run of members. -/
def ranges (s : CodePoints) : List (Nat × Nat) :=
  pairs s.changes
where
  pairs : List Nat → List (Nat × Nat)
    | first :: after :: rest => (first, after - 1) :: pairs rest
    | _ => []

/-- The only member of the set, if it has just one. -/
def only? (s : CodePoints) : Option Char :=
  match s.changes with
  | [first, after] => if after = first + 1 then some (Char.ofNat first) else none
  | _ => none

end CodePoints
end TreeQuery.Text
