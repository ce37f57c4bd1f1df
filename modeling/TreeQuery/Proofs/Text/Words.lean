import Mathlib.Data.List.Chain
import Mathlib.Data.List.TakeWhile
import TreeQuery.Proofs.Text.LetterCase

/-!
# Trimmed and collapsed texts

White space around a text is no matter once the text is trimmed.  Collapsing cuts a text into words
and joins these again, which comes to the same as writing one space for every run of white space and
trimming what that gives.  Main statements: `collapse_eq_trim_squeeze` and `collapsed_collapse`.
-/

namespace TreeQuery.Text

variable {t : Text} {c : Char}

/-! ### Trimming -/

/-- Trimming leaves characters out and adds none. -/
lemma trim_subset (t : Text) : trim t ⊆ t := by
  intro c member
  have cut := (List.dropWhile_suffix isBlank).subset (List.mem_reverse.1 member)
  exact (List.dropWhile_suffix isBlank).subset (List.mem_reverse.1 cut)

/-- A text without white space at its ends stays as it is. -/
lemma Trimmed.trim_eq (h : Trimmed t) : trim t = t := by
  have ends {s : Text} (first : ∀ c ∈ s.head?, isBlank c = false) : s.dropWhile isBlank = s := by
    cases s with
    | nil => rfl
    | cons c s => exact List.dropWhile_cons_of_neg (by simp [first c rfl])
  have last : ∀ c ∈ t.reverse.head?, isBlank c = false := by
    rw [List.head?_reverse]
    exact h.last
  rw [trim, trimEnd, trimStart, ends h.head, ends last, List.reverse_reverse]

/-- Trimming twice changes nothing more. -/
lemma trim_trim (t : Text) : trim (trim t) = trim t := (trimmed_trim t).trim_eq

/-- White space at the end does not count. -/
lemma trimEnd_append {gap : Text} (blank : ∀ c ∈ gap, isBlank c) (t : Text) :
    trimEnd (t ++ gap) = trimEnd t := by
  have blank' : ∀ c ∈ gap.reverse, isBlank c := fun c member =>
    blank c (List.mem_reverse.1 member)
  rw [trimEnd, List.reverse_append, List.dropWhile_append_of_pos blank', trimEnd]

/-- White space around a text does not matter where the text is trimmed. -/
lemma trim_between {front back : Text} (blank : ∀ c ∈ front, isBlank c)
    (blank' : ∀ c ∈ back, isBlank c) (t : Text) : trim (front ++ t ++ back) = trim t := by
  rw [List.append_assoc, trim, trimStart, List.dropWhile_append_of_pos blank,
    List.dropWhile_append]
  split
  · rename_i none
    rw [trim, trimStart, List.isEmpty_iff.1 none, List.dropWhile_eq_nil_iff.2 blank']
  · exact trimEnd_append blank' _

/-- Nothing is left of blank texts only. -/
lemma trim_eq_nil_iff : trim t = [] ↔ ∀ c ∈ t, isBlank c := by
  constructor
  · intro none
    have all : ∀ c ∈ trimStart t, isBlank c := fun c member =>
      List.dropWhile_eq_nil_iff.1 (List.reverse_eq_nil_iff.1 none) c (List.mem_reverse.2 member)
    cases cut : trimStart t with
    | nil => exact List.dropWhile_eq_nil_iff.1 cut
    | cons c rest =>
      have first := isBlank_head_dropWhile t c (congrArg List.head? cut)
      exact absurd (all c (cut ▸ .head _)) (by simp [first])
  · intro blank
    rw [trim, trimStart, List.dropWhile_eq_nil_iff.2 blank]
    rfl

/-- Trimming takes white space away at both ends. -/
lemma exists_trim (t : Text) :
    ∃ front back, (∀ c ∈ front, isBlank c) ∧ (∀ c ∈ back, isBlank c) ∧
      t = front ++ trim t ++ back := by
  refine ⟨t.takeWhile isBlank, ((trimStart t).reverse.takeWhile isBlank).reverse,
    fun _ => List.mem_takeWhile_imp, fun c member => ?_, ?_⟩
  · exact List.mem_takeWhile_imp (List.mem_reverse.1 member)
  · rw [List.append_assoc, trim, trimEnd, ← List.reverse_append, List.takeWhile_append_dropWhile,
      List.reverse_reverse, trimStart, List.takeWhile_append_dropWhile]

/-- White space that stands at the start of a trimmed text is none. -/
lemma Trimmed.eq_nil_of_front {gap : Text} (h : Trimmed (gap ++ t)) (blank : ∀ c ∈ gap, isBlank c) :
    gap = [] := by
  cases gap with
  | nil => rfl
  | cons c gap => exact absurd (blank c (.head _)) (by simp [h.head c rfl])

/-- White space that stands at the end of a trimmed text is none. -/
lemma Trimmed.eq_nil_of_back {gap : Text} (h : Trimmed (t ++ gap)) (blank : ∀ c ∈ gap, isBlank c) :
    gap = [] := by
  by_contra nonempty
  obtain ⟨rest, c, rfl⟩ := List.eq_nil_or_concat' gap |>.resolve_left nonempty
  have solid := h.last c (by simp)
  exact absurd (blank c (by simp)) (by simp [solid])

/-- A part at the start of a trimmed text has white space at its end only. -/
lemma Trimmed.exists_trim_left {s : Text} (h : Trimmed (s ++ t)) :
    ∃ gap, (∀ c ∈ gap, isBlank c) ∧ s = trim s ++ gap := by
  obtain ⟨front, gap, blank, blank', split⟩ := exists_trim s
  rw [split, List.append_assoc, List.append_assoc] at h
  obtain rfl := h.eq_nil_of_front blank
  exact ⟨gap, blank', split⟩

/-- A part at the end of a trimmed text has white space at its start only. -/
lemma Trimmed.exists_trim_right {s : Text} (h : Trimmed (s ++ t)) :
    ∃ gap, (∀ c ∈ gap, isBlank c) ∧ t = gap ++ trim t := by
  obtain ⟨gap, back, blank, blank', split⟩ := exists_trim t
  rw [split, ← List.append_assoc] at h
  obtain rfl := h.eq_nil_of_back blank'
  exact ⟨gap, blank, by rwa [List.append_nil] at split⟩

/-! ### Words -/

/-- White space in front of a text belongs to no word. -/
lemma words_cons_of_blank (blank : isBlank c) (t : Text) : words (c :: t) = words t := by
  rw [words, fields, if_pos blank]
  rfl

/-- A character with nothing or white space behind it is a word of its own. -/
lemma words_cons_of_stop (solid : isBlank c = false) (stop : ∀ d ∈ t.head?, isBlank d) :
    words (c :: t) = [c] :: words t := by
  have first : ∃ more, fields t = [] :: more := by
    cases t with
    | nil => exact ⟨[], rfl⟩
    | cons d t => exact ⟨_, by rw [fields, if_pos (stop d rfl)]⟩
  obtain ⟨more, first⟩ := first
  rw [words, words, fields, if_neg (by simp [solid]), first]
  rfl

/-- A character in front of a word belongs to it. -/
lemma words_cons_of_word {d : Char} (solid : isBlank c = false) (solid' : isBlank d = false) :
    ∃ word more, words (d :: t) = word :: more ∧ words (c :: d :: t) = (c :: word) :: more := by
  have first : ∃ field more, fields (d :: t) = (d :: field) :: more := by
    rw [fields, if_neg (by simp [solid'])]
    cases fields t with
    | nil => exact ⟨[], [], rfl⟩
    | cons field more => exact ⟨field, more, rfl⟩
  obtain ⟨field, more, first⟩ := first
  refine ⟨d :: field, more.filter fun field => !field.isEmpty, ?_, ?_⟩
  · rw [words, first]
    rfl
  · rw [words, fields, if_neg (by simp [solid]), first]
    rfl

/-- A text is empty, or a character in front of a text: white space, the end of a word, or a part of
a word that goes on. -/
lemma induction_words {P : Text → Prop} (nil : P [])
    (blank : ∀ c t, isBlank c → P t → P (c :: t))
    (stop : ∀ c t, isBlank c = false → (∀ d ∈ t.head?, isBlank d) → P t → P (c :: t))
    (word : ∀ c d t, isBlank c = false → isBlank d = false → P (d :: t) → P (c :: d :: t))
    (t : Text) : P t := by
  induction t with
  | nil => exact nil
  | cons c t ih =>
    cases here : isBlank c with
    | true => exact blank c t here ih
    | false =>
      cases t with
      | nil => exact stop c [] here nofun ih
      | cons d t =>
        cases next : isBlank d with
        | true => exact stop c (d :: t) here (fun e first => by cases first; exact next) ih
        | false => exact word c d t here next ih

/-! ### Collapsing -/

/-- The text with one space for every run of white space. -/
def squeeze : Text → Text
  | [] => []
  | c :: rest =>
    if isBlank c then
      match squeeze rest with
      | ' ' :: t => ' ' :: t
      | t => ' ' :: t
    else c :: squeeze rest

/-- There is no white space in the text but spaces with other characters on both sides. -/
structure Collapsed (t : Text) : Prop where
  trimmed : Trimmed t
  spaces : ∀ c ∈ t, isBlank c → c = ' '
  apart : t.IsChain fun c d => isBlank c = false ∨ isBlank d = false

/-- White space in front is passed over. -/
lemma collapse_cons_of_blank (blank : isBlank c) (t : Text) : collapse (c :: t) = collapse t := by
  rw [collapse, words_cons_of_blank blank, collapse]

/-- A character inside a word is kept. -/
lemma collapse_cons_of_word {d : Char} (solid : isBlank c = false) (solid' : isBlank d = false)
    (t : Text) : collapse (c :: d :: t) = c :: collapse (d :: t) := by
  obtain ⟨word, more, here, longer⟩ := words_cons_of_word (t := t) solid solid'
  rw [collapse, collapse, here, longer]
  cases more with
  | nil => rw [List.intercalate_singleton, List.intercalate_singleton]
  | cons next more => rw [List.intercalate_cons_cons, List.intercalate_cons_cons]; rfl

/-- What is left of a text has no words, or its first word comes after a space. -/
lemma collapse_cons_of_stop (solid : isBlank c = false) (stop : ∀ d ∈ t.head?, isBlank d) :
    collapse t = [] ∧ collapse (c :: t) = [c] ∨
      collapse t ≠ [] ∧ collapse (c :: t) = c :: ' ' :: collapse t := by
  rw [collapse, collapse, words_cons_of_stop solid stop]
  cases more : words t with
  | nil => exact .inl ⟨rfl, List.intercalate_singleton⟩
  | cons word later =>
    have nonempty : word ≠ [] := by
      have member : word ∈ words t := more ▸ .head _
      simpa using (List.mem_filter.1 member).2
    refine .inr ⟨?_, by rw [List.intercalate_cons_cons]; rfl⟩
    cases later with
    | nil => rwa [List.intercalate_singleton]
    | cons next later =>
      rw [List.intercalate_cons_cons, List.append_assoc]
      exact List.append_ne_nil_of_left_ne_nil nonempty _

/-- A character in front of a text that ends well makes a text without white space at its ends. -/
lemma Trimmed.cons (solid : isBlank c = false) (last : ∀ d ∈ t.getLast?, isBlank d = false) :
    Trimmed (c :: t) where
  head d first := by
    cases first
    exact solid
  last d final := by
    rw [List.getLast?_cons] at final
    cases final
    cases e : t.getLast? with
    | none => exact solid
    | some d => exact last d e

/-- The empty text is collapsed. -/
lemma collapsed_nil : Collapsed [] := ⟨⟨nofun, nofun⟩, nofun, .nil⟩

/-- A character of a word may stand in front of a collapsed text. -/
lemma Collapsed.cons (solid : isBlank c = false) (h : Collapsed t) : Collapsed (c :: t) where
  trimmed := .cons solid h.trimmed.last
  spaces d member blank := by
    rcases List.mem_cons.1 member with rfl | member
    · exact absurd (solid.symm.trans blank) Bool.false_ne_true
    · exact h.spaces d member blank
  apart := h.apart.cons fun _ _ => .inl solid

/-- A space may stand in front of a text that has words. -/
lemma Collapsed.cons_space (solid : isBlank c = false) (nonempty : t ≠ []) (h : Collapsed t) :
    Collapsed (c :: ' ' :: t) where
  trimmed := by
    obtain ⟨d, t, rfl⟩ := List.exists_cons_of_ne_nil nonempty
    refine .cons solid fun e final => h.trimmed.last e ?_
    rwa [List.getLast?_cons_cons] at final
  spaces d member blank := by
    rcases List.mem_cons.1 member with rfl | member
    · exact absurd (solid.symm.trans blank) Bool.false_ne_true
    · rcases List.mem_cons.1 member with space | member
      · exact space
      · exact h.spaces d member blank
  apart := (h.apart.cons fun d first => .inr (h.trimmed.head d first)).cons fun _ _ => .inl solid

/-- Collapsing leaves single spaces between words and no other white space. -/
theorem collapsed_collapse (t : Text) : Collapsed (collapse t) := by
  induction t using induction_words with
  | nil => exact collapsed_nil
  | blank c t blank ih => rwa [collapse_cons_of_blank blank]
  | stop c t solid stop ih =>
    rcases collapse_cons_of_stop solid stop with ⟨-, last⟩ | ⟨more, more'⟩
    · rw [last]
      exact collapsed_nil.cons solid
    · rw [more']
      exact ih.cons_space solid more
  | word c d t solid solid' ih =>
    rw [collapse_cons_of_word solid solid']
    exact ih.cons solid

/-- A character that is no white space is kept, and a run of white space may start behind it. -/
lemma squeeze_cons_of_not_isBlank (solid : isBlank c = false) (t : Text) :
    squeeze (c :: t) = c :: squeeze t := by
  rw [squeeze, if_neg (by simp [solid])]

/-- White space in front of a text makes a space there, if there is none. -/
lemma squeeze_cons_of_blank (blank : isBlank c) (t : Text) :
    squeeze (c :: t) = squeeze t ∧ (squeeze t).head? = some ' ' ∨
      squeeze (c :: t) = ' ' :: squeeze t ∧ (squeeze t).head? ≠ some ' ' := by
  rw [squeeze, if_pos blank]
  split
  · rename_i e
    exact .inl ⟨e.symm, by rw [e]; rfl⟩
  · rename_i other
    refine .inr ⟨rfl, fun first => ?_⟩
    obtain ⟨u, e⟩ := List.head?_eq_some_iff.1 first
    exact other u e

/-- White space is left where there is some. -/
lemma head_squeeze (stop : ∀ d ∈ t.head?, isBlank d) : ∀ d ∈ (squeeze t).head?, isBlank d := by
  cases t with
  | nil => exact stop
  | cons c t =>
    intro d first
    have space : d = ' ' := by
      rcases squeeze_cons_of_blank (stop c rfl) t with ⟨same, first'⟩ | ⟨spaced, -⟩
      · rw [same, first'] at first
        exact (Option.some.inj first).symm
      · rw [spaced] at first
        exact (Option.some.inj first).symm
    rw [space]
    decide

/-- What may be left of white space in front is white space. -/
lemma isBlank_of_front {front : Text} (front_eq : front = [] ∨ front = [' ']) :
    ∀ c ∈ front, isBlank c := by
  rcases front_eq with rfl | rfl
  · nofun
  · intro c member
    cases List.mem_singleton.1 member
    decide

/-- Squeezing leaves at most one space in front of what collapsing leaves, and some behind it. -/
lemma squeeze_eq (t : Text) :
    ∃ front back, (front = [] ∨ front = [' ']) ∧ (∀ c ∈ back, isBlank c) ∧
      squeeze t = front ++ collapse t ++ back := by
  induction t using induction_words with
  | nil => exact ⟨[], [], .inl rfl, nofun, rfl⟩
  | blank c t blank ih =>
    obtain ⟨front, back, front_eq, blank', split⟩ := ih
    rw [collapse_cons_of_blank blank]
    rcases squeeze_cons_of_blank blank t with ⟨same, -⟩ | ⟨spaced, other⟩
    · exact ⟨front, back, front_eq, blank', same.trans split⟩
    · rcases front_eq with rfl | rfl
      · exact ⟨[' '], back, .inr rfl, blank', by rw [spaced, split]; rfl⟩
      · exact absurd (by rw [split]; rfl) other
  | stop c t solid stop ih =>
    obtain ⟨front, back, front_eq, blank, split⟩ := ih
    rw [squeeze_cons_of_not_isBlank solid, split]
    rcases collapse_cons_of_stop solid stop with ⟨none, last⟩ | ⟨more, more'⟩
    · refine ⟨[], front ++ back, .inl rfl, fun d member => ?_, by rw [none, last]; simp⟩
      rcases List.mem_append.1 member with member | member
      · exact isBlank_of_front front_eq d member
      · exact blank d member
    · rcases front_eq with rfl | rfl
      · obtain ⟨d, rest, first⟩ := List.exists_cons_of_ne_nil more
        have solid' := (collapsed_collapse t).trimmed.head d (by rw [first]; rfl)
        exact absurd (head_squeeze stop d (by rw [split, first]; rfl)) (by simp [solid'])
      · exact ⟨[], back, .inl rfl, blank, by rw [more']; rfl⟩
  | word c d t solid solid' ih =>
    obtain ⟨front, back, front_eq, blank, split⟩ := ih
    rw [squeeze_cons_of_not_isBlank solid, split, collapse_cons_of_word solid solid']
    rcases front_eq with rfl | rfl
    · exact ⟨[], back, .inl rfl, blank, rfl⟩
    · rw [squeeze_cons_of_not_isBlank solid'] at split
      obtain ⟨rfl, -⟩ := List.cons.inj split
      exact absurd solid' (by decide)

/-- Collapsing writes one space for every run of white space and trims the ends. -/
theorem collapse_eq_trim_squeeze (t : Text) : collapse t = trim (squeeze t) := by
  obtain ⟨front, back, front_eq, blank, split⟩ := squeeze_eq t
  rw [split, trim_between (isBlank_of_front front_eq) blank, (collapsed_collapse t).trimmed.trim_eq]

end TreeQuery.Text
