import Mathlib.Data.List.Basic
import Mathlib.Tactic.Lemma
import TreeQuery.Text.Alphanumeric
import TreeQuery.Text.Decimal
import TreeQuery.Text.Escape
import TreeQuery.Text.Words

/-!
# Letter case

Only ASCII capitals are written small, and they become letters.  So what looks at other characters,
such as white space, finds the same in a text and in its small letters.
-/

namespace TreeQuery.Text

/-- No letter of the text is an ASCII capital. -/
def Small (t : Text) : Prop := ∀ c ∈ t, c.isUpper = false

/-- A lower-cased text is in small letters. -/
lemma small_lower (t : Text) : Small (lower t) := fun _ => isUpper_of_mem_lower

/-- There is white space at neither end of the text. -/
structure Trimmed (t : Text) : Prop where
  head : ∀ c ∈ t.head?, isBlank c = false
  last : ∀ c ∈ t.getLast?, isBlank c = false

/-! ### Characters -/

/-- Only capital letters are changed by lower-casing. -/
lemma toLower_of_not_isUpper {c : Char} (other : c.isUpper = false) : c.toLower = c := by
  have small : ¬ ('A'.val ≤ c.val ∧ c.val ≤ 'Z'.val) := of_decide_eq_false other
  exact dif_neg small

/-- A character is one of the 26 capitals, or it stays as it is. -/
lemma toLower_cases {P : Char → Char → Prop}
    (capital : ∀ n < 26, P (Char.ofNat (65 + n)) (Char.ofNat (97 + n))) (other : ∀ c, P c c)
    (c : Char) : P c c.toLower := by
  cases upper : c.isUpper with
  | true =>
    have range : 65 ≤ c.toNat ∧ c.toNat ≤ 90 := of_decide_eq_true upper
    have here : Char.ofNat (65 + (c.toNat - 65)) = c := by
      rw [Nat.add_sub_cancel' range.1, Char.ofNat_toNat]
    have all : ∀ n < 26, (Char.ofNat (65 + n)).toLower = Char.ofNat (97 + n) := by decide
    have small := all (c.toNat - 65) (by omega)
    have found := capital (c.toNat - 65) (by omega)
    rwa [← small, here] at found
  | false =>
    rw [toLower_of_not_isUpper upper]
    exact other c

/-- Letter case does not matter for white space. -/
lemma isBlank_toLower (c : Char) : isBlank c.toLower = isBlank c :=
  toLower_cases (P := fun c small => isBlank small = isBlank c) (by decide) (fun _ => rfl) c

/-- Letter case does not matter for whether a character is a letter or digit. -/
lemma isAlphanumeric_toLower (c : Char) : isAlphanumeric c.toLower = isAlphanumeric c := by
  refine toLower_cases (P := fun c small => isAlphanumeric small = isAlphanumeric c) ?_
    (fun _ => rfl) c
  have all : ∀ n < 26, (Char.ofNat (65 + n)).isAlphanum ∧ (Char.ofNat (97 + n)).isAlphanum := by
    decide
  intro n below
  rw [isAlphanumeric_of_isAlphanum (all n below).1, isAlphanumeric_of_isAlphanum (all n below).2]

/-- What is no letter does not come from another character. -/
lemma toLower_eq_iff {c d : Char} (other : d.isAlpha = false) : c.toLower = d ↔ c = d := by
  have letters : ∀ n < 26, (Char.ofNat (65 + n)).isAlpha ∧ (Char.ofNat (97 + n)).isAlpha := by
    decide
  refine toLower_cases (P := fun c small => small = d ↔ c = d) (fun n below => ?_)
    (fun _ => Iff.rfl) c
  obtain ⟨capital, small⟩ := letters n below
  refine iff_of_false ?_ ?_
  · rintro rfl
    cases small.symm.trans other
  · rintro rfl
    cases capital.symm.trans other

/-- A character that is no ASCII letter is told apart from others in any case. -/
lemma toLower_beq {c d : Char} (other : d.isAlpha = false) : (c.toLower == d) = (c == d) := by
  rw [Bool.eq_iff_iff, beq_iff_eq, beq_iff_eq, toLower_eq_iff other]

/-- Two characters with the same small letter are the same if one of them is no letter. -/
lemma eq_iff_of_toLower_eq {c d x : Char} (same : c.toLower = d.toLower)
    (other : x.isAlpha = false) : c = x ↔ d = x := by
  rw [← toLower_eq_iff other, same, toLower_eq_iff other]

/-- A character that is none of certain marks is none of them in another case. -/
lemma not_mem_of_toLower_eq {c d : Char} {marks : Text} (same : c.toLower = d.toLower)
    (others : marks.all (!·.isAlpha)) (h : c ∉ marks) : d ∉ marks := by
  intro member
  have other : d.isAlpha = false := (Bool.not_eq_true' _).mp (List.all_eq_true.1 others d member)
  exact h ((eq_iff_of_toLower_eq same other).2 rfl ▸ member)

/-- Letter case does not matter for digits. -/
lemma isDigit_toLower (c : Char) : c.toLower.isDigit = c.isDigit :=
  toLower_cases (P := fun c small => small.isDigit = c.isDigit) (by decide) (fun _ => rfl) c

/-- A letter takes as many bytes in either case. -/
lemma utf8Size_toLower (c : Char) : c.toLower.utf8Size = c.utf8Size :=
  toLower_cases (P := fun c small => small.utf8Size = c.utf8Size) (by decide) (fun _ => rfl) c

/-! ### Texts -/

variable {t : Text} {p : Char → Bool}

/-- Lower-casing removes no character. -/
lemma lower_eq_nil_iff : lower t = [] ↔ t = [] := List.map_eq_nil_iff

/-- The longest prefix with a property that disregards case is found in a lower-cased text as well.
-/
lemma lower_takeWhile (same : ∀ c, p c.toLower = p c) (t : Text) :
    lower (t.takeWhile p) = (lower t).takeWhile p := by
  rw [lower, lower, List.takeWhile_map]
  exact congrArg (fun q => (t.takeWhile q).map Char.toLower) (funext fun c => (same c).symm)

/-- So is what comes after this prefix. -/
lemma lower_dropWhile (same : ∀ c, p c.toLower = p c) (t : Text) :
    lower (t.dropWhile p) = (lower t).dropWhile p := by
  rw [lower, lower, List.dropWhile_map]
  exact congrArg (fun q => (t.dropWhile q).map Char.toLower) (funext fun c => (same c).symm)

/-- Lower-casing works from either end. -/
lemma lower_reverse (t : Text) : lower t.reverse = (lower t).reverse := List.map_reverse

/-- White space at the ends is the same in any case. -/
lemma lower_trim (t : Text) : lower (trim t) = trim (lower t) := by
  unfold trim trimEnd trimStart
  rw [lower_reverse, lower_dropWhile isBlank_toLower, lower_reverse,
    lower_dropWhile isBlank_toLower]

/-- Lower-casing twice changes nothing more. -/
lemma lower_lower (t : Text) : lower (lower t) = lower t := by
  unfold lower
  rw [List.map_map]
  exact List.map_congr_left fun c _ => toLower_of_not_isUpper (isUpper_toLower c)

/-- A lower-cased text takes as many bytes. -/
lemma byteLength_lower (t : Text) : byteLength (lower t) = byteLength t := by
  induction t with
  | nil => rfl
  | cons c t ih =>
    change c.toLower.utf8Size + byteLength (lower t) = c.utf8Size + byteLength t
    rw [utf8Size_toLower, ih]

/-- A character that is no backslash stands for itself. -/
lemma unescape_cons_of_ne {c : Char} (plain : c ≠ '\\') (t : Text) :
    unescape (c :: t) = c :: unescape t := by
  rw [unescape]
  · rintro rfl
    exact absurd rfl plain
  · rintro _ _ rfl
    exact absurd rfl plain

/-- A backslash hides the next character in any case. -/
lemma lower_unescape (t : Text) : lower (unescape t) = unescape (lower t) := by
  fun_induction unescape t with
  | case1 => rfl
  | case2 => rfl
  | case3 c rest ih =>
    change c.toLower :: lower (unescape rest) = unescape ('\\' :: c.toLower :: lower rest)
    rw [ih, unescape]
  | case4 c rest single pair ih =>
    change c.toLower :: lower (unescape rest) = unescape (c.toLower :: lower rest)
    have plain : c.toLower ≠ '\\' := by
      rw [Ne, toLower_eq_iff rfl]
      rintro rfl
      cases rest with
      | nil => exact single rfl rfl
      | cons d rest => exact pair d rest rfl rfl
    rw [ih, unescape_cons_of_ne plain]

/-- A text in small letters stays as it is. -/
lemma lower_of_small (small : Small t) : lower t = t :=
  (List.map_congr_left fun c member => toLower_of_not_isUpper (small c member)).trans
    (List.map_id t)

/-- Digits are no letters, so digits in small letters are the same digits. -/
lemma lower_of_isDigit (digits : t.all Char.isDigit) : lower t = t := by
  refine (List.map_congr_left fun c member => ?_).trans (List.map_id t)
  exact toLower_cases (P := fun c small => c.isDigit → small = c) (by decide) (fun _ _ => rfl) c
    (List.all_eq_true.1 digits c member)

/-- Digits have no case, so a natural number is read alike. -/
lemma toNat?_lower (t : Text) : toNat? (lower t) = toNat? t := by
  have same : (lower t).all Char.isDigit = t.all Char.isDigit := by
    rw [lower, List.all_map]
    exact congrArg t.all (funext isDigit_toLower)
  have empty : (lower t).isEmpty = t.isEmpty := List.isEmpty_map
  unfold toNat?
  rw [same, empty]
  split
  · rename_i digits
    rw [lower_of_isDigit (Bool.and_eq_true_iff.1 digits).2]
  · rfl

/-- Neither have signs, so an integer is read alike. -/
lemma toInt?_lower (t : Text) : toInt? (lower t) = toInt? t := by
  cases t with
  | nil => rfl
  | cons c t =>
    have unsigned {d : Char} {rest : Text} (plus : d ≠ '+') (minus : d ≠ '-') :
        toInt? (d :: rest) = (toNat? (d :: rest)).map Int.ofNat := by
      rw [toInt?]
      · rintro _ ⟨⟩
        exact plus rfl
      · rintro _ ⟨⟩
        exact minus rfl
    by_cases plus : c = '+'
    · subst plus
      exact congrArg (Option.map Int.ofNat) (toNat?_lower t)
    · by_cases minus : c = '-'
      · subst minus
        exact congrArg (Option.map fun n => -Int.ofNat n) (toNat?_lower t)
      · have plus' := mt (toLower_eq_iff rfl).1 plus
        have minus' := mt (toLower_eq_iff rfl).1 minus
        rw [unsigned plus minus]
        exact (unsigned plus' minus').trans (congrArg _ (toNat?_lower (c :: t)))

/-- A text is cut at the same places in any case. -/
lemma fields_lower (t : Text) : fields (lower t) = (fields t).map lower := by
  induction t with
  | nil => rfl
  | cons c t ih =>
    change fields (c.toLower :: lower t) = _
    rw [fields, fields, isBlank_toLower, ih]
    split
    · rfl
    · cases fields t <;> rfl

/-- The words of a lower-cased text are the lower-cased words. -/
lemma words_lower (t : Text) : words (lower t) = (words t).map lower := by
  unfold words
  rw [fields_lower, List.filter_map]
  congr 2
  exact funext fun field => congrArg not List.isEmpty_map

/-- Texts may be lower-cased before or after they are put together. -/
lemma lower_flatMap {α : Type} (xs : List α) (f : α → Text) :
    lower (xs.flatMap f) = xs.flatMap fun x => lower (f x) := List.map_flatMap

/-- So may texts with the same gap between them. -/
lemma lower_intercalate (gap : Text) (parts : List Text) :
    lower (gap.intercalate parts) = (lower gap).intercalate (parts.map lower) := by
  match parts with
  | [] => rfl
  | [part] => rw [List.map_singleton, List.intercalate_singleton, List.intercalate_singleton]
  | part :: next :: later =>
    have deeper := lower_intercalate gap (next :: later)
    rw [List.intercalate_cons_cons, lower_append, lower_append, deeper]
    exact List.intercalate_cons_cons.symm

/-- White space collapses alike in any case. -/
lemma lower_collapse (t : Text) : lower (collapse t) = collapse (lower t) := by
  unfold collapse
  rw [words_lower, lower_intercalate]
  rfl

/-- Behind the white space at the start there is a character that is none. -/
lemma isBlank_head_dropWhile (t : Text) : ∀ c ∈ (t.dropWhile isBlank).head?, isBlank c = false := by
  intro c first
  have stop := List.head?_dropWhile_not isBlank t
  rw [first] at stop
  simpa using stop

/-- Trimming leaves no white space at the ends. -/
lemma trimmed_trim (t : Text) : Trimmed (trim t) where
  head c first := by
    unfold trim trimEnd at first
    rw [List.head?_reverse] at first
    obtain ⟨cut, split⟩ := List.dropWhile_suffix isBlank (l := (trimStart t).reverse)
    have last : c ∈ (trimStart t).reverse.getLast? := by
      rw [← split]
      exact List.mem_getLast?_append_of_mem_getLast? first
    rw [List.getLast?_reverse] at last
    exact isBlank_head_dropWhile t c last
  last c final := by
    unfold trim trimEnd at final
    rw [List.getLast?_reverse] at final
    exact isBlank_head_dropWhile _ c final

/-- A lower-cased text has no white space at its ends if the text has none. -/
lemma Trimmed.lower (h : Trimmed t) : Trimmed (Text.lower t) where
  head c first := by
    rw [Text.lower, List.head?_map] at first
    obtain ⟨d, first', rfl⟩ := Option.map_eq_some_iff.1 first
    rw [isBlank_toLower]
    exact h.head d first'
  last c final := by
    rw [Text.lower, List.getLast?_map] at final
    obtain ⟨d, final', rfl⟩ := Option.map_eq_some_iff.1 final
    rw [isBlank_toLower]
    exact h.last d final'

/-! ### Texts with the same small letters -/

/-- Two texts are the same up to case if they are so when lower-cased. -/
lemma sameIgnoringCase_iff {s t : Text} : sameIgnoringCase s t ↔ lower s = lower t := beq_iff_eq

/-- A text that is the same as another one up to case starts with the same character up to case. -/
lemma exists_cons_of_lower_eq {s t : Text} {c : Char} (same : lower (c :: s) = lower t) :
    ∃ d u, t = d :: u ∧ c.toLower = d.toLower ∧ lower s = lower u := by
  obtain ⟨d, u, rfl, first, later⟩ := List.map_eq_cons_iff.1 same.symm
  exact ⟨d, u, rfl, first.symm, later.symm⟩

/-- A text that is the same as two others together, up to case, is made of two parts like these. -/
lemma exists_append_of_lower_eq {s t u : Text} (same : lower (s ++ t) = lower u) :
    ∃ s' t', u = s' ++ t' ∧ lower s = lower s' ∧ lower t = lower t' := by
  rw [lower_append] at same
  obtain ⟨s', t', rfl, first, later⟩ := List.map_eq_append_iff.1 same.symm
  exact ⟨s', t', rfl, first.symm, later.symm⟩

/-- Two marks that are no letters stay where they are. -/
lemma exists_enclosed_of_lower_eq {a b : Char} {s t u : Text} (first : a.isAlpha = false)
    (last : b.isAlpha = false) (same : lower (a :: s ++ b :: t) = lower u) :
    ∃ s' t', u = a :: s' ++ b :: t' ∧ lower s = lower s' ∧ lower t = lower t' := by
  obtain ⟨front, back, rfl, same, ends⟩ := exists_append_of_lower_eq same
  obtain ⟨c, s', rfl, opening, within⟩ := exists_cons_of_lower_eq same
  obtain ⟨d, t', rfl, closing, later⟩ := exists_cons_of_lower_eq ends
  cases (eq_iff_of_toLower_eq opening first).1 rfl
  cases (eq_iff_of_toLower_eq closing last).1 rfl
  exact ⟨s', t', rfl, within, later⟩

/-- A property that disregards case holds all through both of two texts that differ in case only. -/
lemma all_of_lower_eq {s t : Text} (recased : ∀ c, p c.toLower = p c) (same : lower s = lower t)
    (h : ∀ c ∈ s, p c) : ∀ c ∈ t, p c := by
  intro c member
  have small : c.toLower ∈ lower s := same ▸ List.mem_map_of_mem member
  obtain ⟨d, member', e⟩ := List.mem_map.1 small
  rw [← recased, ← e, recased]
  exact h d member'

/-- Texts that differ in case only take as many bytes. -/
lemma byteLength_eq_of_lower_eq {s t : Text} (same : lower s = lower t) :
    byteLength s = byteLength t := by
  rw [← byteLength_lower, same, byteLength_lower]

end TreeQuery.Text
