import TreeQuery.Proofs.Selector.Arguments
import TreeQuery.Proofs.Selector.Names
import TreeQuery.Proofs.Text.Words

/-!
# How formulas are written

A formula for positions is `odd`, `even`, a number, or a factor in front of the letter `n` and a
summand behind it.  The reader knows no such rules: it cuts a text at the first `n`, trims the
pieces and looks at their first characters.  Still it reads exactly what is written by the rules, as
the coefficients that they give.  Main statement: `read?_writtenFormula`.
-/

namespace TreeQuery.Selector
open Text (byteLength isBlank lower trim trimStart)

/-! ### Rules -/

namespace Grammar

/-- A sign, which may be missing where none is needed, and what it makes of one. -/
inductive Sign : (needed : Bool) → Text → Int → Prop where
  | plus {needed : Bool} : Sign needed ['+'] 1
  | minus {needed : Bool} : Sign needed ['-'] (-1)
  | bare : Sign false [] 1

/-- A number and its value.  White space may stand behind the sign. -/
inductive Number (needed : Bool) : Text → Int → Prop where
  | signed {sign gap digits : Text} {unit : Int} :
    Sign needed sign unit → Blank gap → Digits 2147483647 digits →
    Number needed (sign ++ gap ++ digits) (unit * Nat.ofDigitChars 10 digits 0)

/-- What stands in front of the letter: a number, or a sign alone, which may be missing too. -/
inductive Factor : Text → Int → Prop where
  | number {t : Text} {i : Int} : Number false t i → Factor t i
  | unit {sign gap : Text} {i : Int} : Sign false sign i → Blank gap → Factor (sign ++ gap) i

/-- What stands behind the letter: a number with a sign, or nothing. -/
inductive Summand : Text → Int → Prop where
  | none : Summand [] 0
  | number {t : Text} {i : Int} : Number true t i → Summand t i

/-- A formula, with its step and its start. -/
inductive Formula : Text → Int → Int → Prop where
  | odd : Formula "odd".toList 2 1
  | even : Formula "even".toList 2 0
  | number {t : Text} {start : Int} : Number false t start → Formula t 0 start
  | progression {factor gap gap' summand : Text} {step start : Int} :
    Factor factor step → Blank gap → Blank gap' → Summand summand start →
    Formula (factor ++ gap ++ 'n' :: (gap' ++ summand)) step start

end Grammar

open Grammar

variable {t digits gap : Text} {needed : Bool} {i : Int} {v : Int32}

/-! ### Digits and signs -/

/-- No digit is white space. -/
lemma isBlank_of_isDigit {c : Char} (digit : c.isDigit) : isBlank c = false :=
  not_isBlank_of_isAlphanumeric
    (Text.isAlphanumeric_of_isAlphanum (by simp [Char.isAlphanum, digit]))

namespace Grammar

/-- No white space stands at the ends of digits. -/
lemma Digits.trimmed {limit : Nat} (h : Digits limit t) : Text.Trimmed t where
  head c first := isBlank_of_isDigit (h.digit c (List.mem_of_mem_head? first))
  last c last := isBlank_of_isDigit (h.digit c (List.mem_of_mem_getLast? last))

/-- Digits are read as the number that they write. -/
lemma Digits.toNat?_eq {limit : Nat} (h : Digits limit t) :
    Text.toNat? t = some (Nat.ofDigitChars 10 t 0) := by
  obtain ⟨n, read, -⟩ := digits_iff.1 h
  unfold Text.toNat? at read ⊢
  split at read
  · rename_i run
    exact if_pos run
  · cases read

/-- White space in front of digits is trimmed. -/
lemma Digits.trimStart_eq {limit : Nat} (h : Digits limit digits) (blank : Blank gap) :
    trimStart (gap ++ digits) = digits :=
  Run.dropWhile_eq ⟨blank, h.trimmed.head⟩

/-- No white space stands at the ends of a sign. -/
lemma Sign.trimmed {sign : Text} {unit : Int} (h : Sign needed sign unit) : Text.Trimmed sign := by
  cases h with
  | plus => exact .cons (by decide) nofun
  | minus => exact .cons (by decide) nofun
  | bare => exact ⟨nofun, nofun⟩

/-- The characters that numbers are written with. -/
def IsNumeric (c : Char) : Prop := c = '+' ∨ c = '-' ∨ isBlank c ∨ c.isDigit

/-- Apart from signs, digits and white space a number holds no character. -/
lemma not_mem_of_isNumeric {c : Char} (h : ∀ d ∈ t, IsNumeric d)
    (other : c ≠ '+' ∧ c ≠ '-' ∧ isBlank c = false ∧ c.isDigit = false) : c ∉ t := by
  intro member
  obtain ⟨plus, minus, solid, letter⟩ := other
  rcases h c member with e | e | blank | digit
  · exact plus e
  · exact minus e
  · exact Bool.false_ne_true (solid.symm.trans blank)
  · exact Bool.false_ne_true (letter.symm.trans digit)

/-- A sign holds characters of numbers. -/
lemma Sign.isNumeric {sign : Text} {unit : Int} (h : Sign needed sign unit) :
    ∀ c ∈ sign, IsNumeric c := by
  cases h with
  | plus => exact List.forall_mem_singleton.2 (.inl rfl)
  | minus => exact List.forall_mem_singleton.2 (.inr (.inl rfl))
  | bare => nofun

/-- White space holds characters of numbers. -/
lemma isNumeric_of_blank (blank : Blank gap) : ∀ c ∈ gap, IsNumeric c :=
  fun c member => .inr (.inr (.inl (blank c member)))

/-- A number holds characters of numbers. -/
lemma Number.isNumeric (h : Number needed t i) : ∀ c ∈ t, IsNumeric c := by
  obtain ⟨sign, blank, digits⟩ := h
  rw [List.forall_mem_append, List.forall_mem_append]
  exact ⟨⟨sign.isNumeric, isNumeric_of_blank blank⟩,
    fun c member => .inr (.inr (.inr (digits.digit c member)))⟩

/-- What stands in front of the letter holds characters of numbers. -/
lemma Factor.isNumeric (h : Factor t i) : ∀ c ∈ t, IsNumeric c := by
  cases h with
  | number number => exact number.isNumeric
  | unit sign blank => exact List.forall_mem_append.2 ⟨sign.isNumeric, isNumeric_of_blank blank⟩

/-- A number without white space around it is written by the same rule. -/
lemma Number.trim (h : Number needed t i) : Number needed (Text.trim t) i := by
  obtain @⟨sign, gap, digits, unit, signed, blank, size⟩ := h
  have last : ∀ c ∈ (gap ++ digits).getLast?, isBlank c = false := fun c last =>
    size.trimmed.last c (by rwa [List.getLast?_append_of_ne_nil _ size.nonempty] at last)
  cases signed with
  | plus =>
    have trimmed : Text.Trimmed ('+' :: (gap ++ digits)) := .cons (by decide) last
    rw [show ['+'] ++ gap ++ digits = '+' :: (gap ++ digits) from rfl, trimmed.trim_eq]
    exact .signed .plus blank size
  | minus =>
    have trimmed : Text.Trimmed ('-' :: (gap ++ digits)) := .cons (by decide) last
    rw [show ['-'] ++ gap ++ digits = '-' :: (gap ++ digits) from rfl, trimmed.trim_eq]
    exact .signed .minus blank size
  | bare =>
    have between : Text.trim ([] ++ gap ++ digits) = digits := by
      rw [List.nil_append, ← List.append_nil (gap ++ digits), Text.trim_between blank blank_nil,
        size.trimmed.trim_eq]
    rw [between]
    exact .signed .bare blank_nil size

/-- A number has a digit. -/
lemma Number.exists_digit (h : Number needed t i) : ∃ d ∈ t, d.isDigit := by
  obtain ⟨-, -, size⟩ := h
  obtain ⟨d, rest, rfl⟩ := List.exists_cons_of_ne_nil size.nonempty
  exact ⟨d, by simp, size.digit d (.head _)⟩

/-- White space at its ends does not matter to what stands in front of the letter. -/
lemma Factor.trim (h : Factor t i) : Factor (Text.trim t) i := by
  cases h with
  | number number => exact .number number.trim
  | @unit sign gap _ signed blank =>
    have between : Text.trim (sign ++ gap) = sign :=
      (Text.trim_between blank_nil blank sign).trans signed.trimmed.trim_eq
    rw [between, ← List.append_nil sign]
    exact .unit signed blank_nil

/-- White space at its ends does not matter to what stands behind the letter. -/
lemma Summand.trim (h : Summand t i) : Summand (Text.trim t) i := by
  cases h with
  | none => exact .none
  | number number => exact .number number.trim

end Grammar

/-! ### Reading the parts -/

namespace Nth

/-- Digits within 32 bits are read as a size. -/
lemma magnitude?_of_digits (h : Digits 2147483647 digits) :
    ∃ size, magnitude? digits = some size ∧ size.toInt = Nat.ofDigitChars 10 digits 0 := by
  have bounded := h.bounded
  refine ⟨_, ?_, Int32.toInt_ofNat_of_lt (by omega)⟩
  rw [magnitude?, h.toNat?_eq, Option.bind_some, if_pos bounded]

/-- What is read as a size is written with digits. -/
lemma digits_of_magnitude? (h : magnitude? digits = some v) :
    Digits 2147483647 digits ∧ v.toInt = Nat.ofDigitChars 10 digits 0 := by
  obtain ⟨n, read, bounded⟩ := Option.bind_eq_some_iff.1 h
  split at bounded
  · rename_i small
    have run : Digits 2147483647 digits := digits_iff.2 ⟨n, read, small⟩
    obtain ⟨size, read', value⟩ := magnitude?_of_digits run
    cases read'.symm.trans h
    exact ⟨run, value⟩
  · cases bounded

/-- A size can be negated in 32 bits. -/
lemma toInt_neg_of_magnitude? (h : magnitude? digits = some v) : (-v).toInt = -v.toInt := by
  obtain ⟨-, value⟩ := digits_of_magnitude? h
  have high := v.toInt_lt
  rw [Int32.toInt_neg]
  exact Int.bmod_eq_of_le (by omega) (by omega)

/-- What is read with a sign is a number by the rules. -/
lemma number_of_signed? (h : signed? needed t = some v) : Number needed (trim t) v.toInt := by
  have gap (digits : Text) : digits = digits.takeWhile isBlank ++ trimStart digits :=
    List.takeWhile_append_dropWhile.symm
  have blank (digits : Text) : Blank (digits.takeWhile isBlank) := fun _ => List.mem_takeWhile_imp
  unfold signed? at h
  split at h
  · rename_i digits split
    obtain ⟨run, value⟩ := digits_of_magnitude? h
    rw [split, gap digits, value, ← Int.one_mul (Nat.cast _)]
    exact .signed .plus (blank digits) run
  · rename_i digits split
    obtain ⟨size, read, rfl⟩ := Option.map_eq_some_iff.1 h
    obtain ⟨run, value⟩ := digits_of_magnitude? read
    rw [split, gap digits, toInt_neg_of_magnitude? read, value, Int.neg_eq_neg_one_mul]
    exact .signed .minus (blank digits) run
  · split at h
    · cases h
    · rename_i bare
      obtain ⟨run, value⟩ := digits_of_magnitude? h
      rw [value, ← Int.one_mul (Nat.cast _), (Bool.not_eq_true _).mp bare]
      exact .signed .bare blank_nil run

/-- A number by the rules is read with its sign. -/
lemma signed?_of_number (h : Number needed (trim t) i) :
    ∃ v, signed? needed t = some v ∧ v.toInt = i := by
  generalize split : trim t = written at h
  obtain @⟨sign, gap, digits, unit, signed, blank, run⟩ := h
  obtain ⟨size, read, value⟩ := magnitude?_of_digits run
  cases signed with
  | plus =>
    refine ⟨size, ?_, by omega⟩
    rw [← read, ← run.trimStart_eq blank, signed?, split]
    rfl
  | minus =>
    refine ⟨-size, ?_, by rw [toInt_neg_of_magnitude? read]; omega⟩
    rw [← run.trimStart_eq blank] at read
    rw [signed?, split]
    exact Option.map_eq_some_iff.2 ⟨size, read, rfl⟩
  | bare =>
    have tight : gap = [] := (split ▸ Text.trimmed_trim t).eq_nil_of_front blank
    subst tight
    refine ⟨size, ?_, by omega⟩
    rw [List.nil_append, List.nil_append] at split
    rw [signed?, split, ← read]
    split
    · exact absurd (run.digit '+' (.head _)) (by decide)
    · exact absurd (run.digit '-' (.head _)) (by decide)
    · rfl

/-- What is read in front of the letter stands there by the rules. -/
lemma factor_of_factor? (h : factor? t = some v) : Factor (trim t) v.toInt := by
  unfold factor? at h
  split at h
  · rename_i split
    cases h
    rw [split]
    exact .unit .bare blank_nil
  · rename_i split
    cases h
    rw [split]
    exact .unit .plus blank_nil
  · rename_i split
    cases h
    rw [split]
    exact .unit .minus blank_nil
  · have number := number_of_signed? h
    rw [Text.trim_trim] at number
    exact .number number

/-- What stands in front of the letter by the rules is read there. -/
lemma factor?_of_factor (h : Factor (trim t) i) : ∃ v, factor? t = some v ∧ v.toInt = i := by
  generalize split : trim t = written at h
  unfold factor?
  rw [split]
  cases h with
  | number number =>
    obtain ⟨d, member, digit⟩ := number.exists_digit
    have read := signed?_of_number number.trim
    split
    · cases member
    · cases List.mem_singleton.1 member
      exact absurd digit (by decide)
    · cases List.mem_singleton.1 member
      exact absurd digit (by decide)
    · exact read
  | @unit sign gap _ signed blank =>
    have tight : gap = [] := (split ▸ Text.trimmed_trim t).eq_nil_of_back blank
    subst tight
    cases signed with
    | plus => exact ⟨1, rfl, rfl⟩
    | minus => exact ⟨-1, rfl, rfl⟩
    | bare => exact ⟨1, rfl, rfl⟩

/-- What is read behind the letter stands there by the rules. -/
lemma summand_of_summand? (h : summand? t = some v) : Summand (trim t) v.toInt := by
  unfold summand? at h
  split at h
  · rename_i split
    cases h
    rw [split]
    exact .none
  · have number := number_of_signed? h
    rw [Text.trim_trim] at number
    exact .number number

/-- What stands behind the letter by the rules is read there. -/
lemma summand?_of_summand (h : Summand (trim t) i) : ∃ v, summand? t = some v ∧ v.toInt = i := by
  generalize split : trim t = written at h
  unfold summand?
  rw [split]
  cases h with
  | none => exact ⟨0, rfl, rfl⟩
  | number number =>
    obtain ⟨d, member, -⟩ := number.exists_digit
    have read := signed?_of_number number.trim
    split
    · cases member
    · exact read

/-! ### Reading a whole formula -/

variable {before behind : Text}

/-- Without a letter a formula is a number, and its step is zero. -/
lemma read?_of_not_mem (none : 'n' ∉ lower (trim t)) (other : lower (trim t) ≠ "odd".toList) :
    read? t = (signed? false (lower (trim t))).map fun start => ⟨0, start⟩ := by
  have even : lower (trim t) ≠ "even".toList := by
    intro e
    exact none (e ▸ by decide)
  have whole : (lower (trim t)).dropWhile (· != 'n') = [] :=
    List.dropWhile_eq_nil_iff.2 fun c member => bne_iff_ne.2 fun e => none (e ▸ member)
  unfold read?
  dsimp only
  rw [if_neg other, if_neg even, whole]

/-- With a letter a formula is read from what stands in front of it and behind it. -/
lemma read?_of_split (split : lower (trim t) = before ++ 'n' :: behind) (first : 'n' ∉ before)
    (other : lower (trim t) ≠ "even".toList) :
    read? t = (factor? before).bind fun step => (summand? behind).bind fun start =>
      some ⟨step, start⟩ := by
  have odd : lower (trim t) ≠ "odd".toList := by
    intro e
    exact absurd (show 'n' ∈ "odd".toList by rw [← e, split]; simp) (by decide)
  have run : Run (· != 'n') before ('n' :: behind) :=
    ⟨fun c member => bne_iff_ne.2 fun e => first (e ▸ member), fun c e => by cases e; rfl⟩
  unfold read?
  dsimp only
  rw [if_neg odd, if_neg other, split, run.dropWhile_eq, run.takeWhile_eq]
  rfl

/-- What is read are the coefficients of a formula, which is written in any case and with white
space around it. -/
lemma formula_of_read? {nth : Nth} (h : read? t = some nth) :
    Formula (lower (trim t)) nth.step.toInt nth.start.toInt := by
  have trimmed : Text.Trimmed (lower (trim t)) := (Text.trimmed_trim t).lower
  by_cases odd : lower (trim t) = "odd".toList
  · rw [read?, if_pos odd] at h
    cases h
    exact odd ▸ .odd
  · by_cases even : lower (trim t) = "even".toList
    · rw [read?, if_neg odd, if_pos even] at h
      cases h
      exact even ▸ .even
    · by_cases letter : 'n' ∈ lower (trim t)
      · obtain ⟨before, behind, split, first⟩ := List.eq_append_cons_of_mem letter
        rw [read?_of_split split first even] at h
        obtain ⟨step, factor, later⟩ := Option.bind_eq_some_iff.1 h
        obtain ⟨start, summand, e⟩ := Option.bind_eq_some_iff.1 later
        cases e
        -- The whole is trimmed, so what trimming takes from the parts stands next to the letter.
        rw [split] at trimmed ⊢
        obtain ⟨gap, blank, front⟩ := trimmed.exists_trim_left
        rw [List.append_cons] at trimmed
        obtain ⟨gap', blank', back⟩ := trimmed.exists_trim_right
        rw [front, back]
        exact .progression (factor_of_factor? factor) blank blank' (summand_of_summand? summand)
      · rw [read?_of_not_mem letter odd] at h
        obtain ⟨start, read, rfl⟩ := Option.map_eq_some_iff.1 h
        exact .number (trimmed.trim_eq ▸ number_of_signed? read)

/-- A formula by the rules is read with its step and its start. -/
lemma read?_of_formula {step start : Int} (h : Formula (lower (trim t)) step start) :
    ∃ nth, read? t = some nth ∧ nth.step.toInt = step ∧ nth.start.toInt = start := by
  have trimmed : Text.Trimmed (lower (trim t)) := (Text.trimmed_trim t).lower
  generalize split : lower (trim t) = written at h
  cases h with
  | odd => exact ⟨⟨2, 1⟩, by rw [read?, if_pos split], rfl, rfl⟩
  | even => exact ⟨⟨2, 0⟩, by rw [read?, if_neg (by rw [split]; decide), if_pos split], rfl, rfl⟩
  | number number =>
    have none : 'n' ∉ lower (trim t) := split ▸ not_mem_of_isNumeric number.isNumeric (by decide)
    have other : lower (trim t) ≠ "odd".toList := by
      rintro e
      have letter : 'o' ∉ written := not_mem_of_isNumeric number.isNumeric (by decide)
      exact letter (split ▸ e ▸ by decide)
    rw [← split, ← trimmed.trim_eq] at number
    obtain ⟨start, read, value⟩ := signed?_of_number number
    exact ⟨⟨0, start⟩, by rw [read?_of_not_mem none other, read]; rfl, rfl, value⟩
  | @progression front gap gap' summand _ _ factored blank blank' summed =>
    have numeric : ∀ c ∈ front ++ gap, IsNumeric c :=
      List.forall_mem_append.2 ⟨factored.isNumeric, isNumeric_of_blank blank⟩
    have first : 'n' ∉ front ++ gap := not_mem_of_isNumeric numeric (by decide)
    have other : lower (trim t) ≠ "even".toList := by
      -- In front of its letter this word has others, and numbers are written with none.
      intro e
      rw [split] at e
      cases start : front ++ gap with
      | nil =>
        rw [start] at e
        exact absurd (List.cons.inj e).1 (by decide)
      | cons c rest =>
        rw [start] at e numeric
        exact not_mem_of_isNumeric numeric (c := 'e') (by decide) ((List.cons.inj e).1 ▸ .head _)
    have factor : Factor (trim (front ++ gap)) step :=
      Text.trim_between blank_nil blank front ▸ factored.trim
    have summand : Summand (trim (gap' ++ summand)) start :=
      (List.append_nil (gap' ++ summand) ▸ Text.trim_between blank' blank_nil summand) ▸ summed.trim
    obtain ⟨step, read, value⟩ := factor?_of_factor factor
    obtain ⟨start, read', value'⟩ := summand?_of_summand summand
    refine ⟨⟨step, start⟩, ?_, value, value'⟩
    rw [read?_of_split split first other, read, read']
    rfl

/-- Where the reader cuts a text, as a place in bytes, and what it takes for the parts on both
sides: in front of the letter, behind it, and behind a sign. -/
inductive Cut (t : Text) : (whole : Text) → (place : Nat) → (before behind : Text) → Prop where
  | letter {letter : Char} {behind : Text} :
    (lower (trim t)).dropWhile (· != 'n') = letter :: behind →
    Cut t (lower (trim t)) (byteLength ((lower (trim t)).takeWhile (· != 'n')))
      ((lower (trim t)).takeWhile (· != 'n')) (letter :: behind)
  | behindLetter {letter : Char} {behind : Text} :
    (lower (trim t)).dropWhile (· != 'n') = letter :: behind →
    Cut t (lower (trim t)) (byteLength ((lower (trim t)).takeWhile (· != 'n')) + 1)
      ((lower (trim t)).takeWhile (· != 'n') ++ [letter]) behind
  | sign {written digits : Text} {sign : Char} :
    trim written = sign :: digits → sign = '+' ∨ sign = '-' →
    Cut t (trim written) 1 [sign] digits

/-- The parts of a cut make up the whole, and the first ends where it is cut. -/
lemma Cut.parts {whole : Text} {place : Nat} (h : Cut t whole place before behind) :
    whole = before ++ behind ∧ byteLength before = place := by
  cases h with
  | letter split => exact ⟨by rw [← split, List.takeWhile_append_dropWhile], rfl⟩
  | @behindLetter letter _ split =>
    have first : letter = 'n' := by
      simpa [split] using List.head?_dropWhile_not (· != 'n') (lower (trim t))
    refine ⟨by rw [← List.append_cons, ← split, List.takeWhile_append_dropWhile], ?_⟩
    rw [Text.byteLength_append, first]
    rfl
  | sign split known =>
    refine ⟨split, ?_⟩
    rcases known with rfl | rfl <;> rfl

/-- A formula is read from a text if one is written there by the rules, up to the case of letters
and the white space at the ends, and it has the step and the start that the rules give.  No sign
makes a size leave its 32 bits, and no cut goes through a character. -/
theorem read?_writtenFormula (t : Text) :
    ((read? t).isSome ↔ ∃ step start, Formula (lower (trim t)) step start) ∧
    (∀ step start, Formula (lower (trim t)) step start ↔
      ∃ nth, read? t = some nth ∧ nth.step.toInt = step ∧ nth.start.toInt = start) ∧
    (∀ digits size, magnitude? digits = some size → (-size).toInt = -size.toInt) ∧
    ∀ whole place before behind, Cut t whole place before behind →
      whole = before ++ behind ∧ byteLength before = place := by
  have values (step start : Int) : Formula (lower (trim t)) step start ↔
      ∃ nth, read? t = some nth ∧ nth.step.toInt = step ∧ nth.start.toInt = start := by
    constructor
    · exact read?_of_formula
    · rintro ⟨nth, read, rfl, rfl⟩
      exact formula_of_read? read
  refine ⟨?_, values, fun _ _ => toInt_neg_of_magnitude?, fun _ _ _ _ => Cut.parts⟩
  constructor
  · intro some
    obtain ⟨nth, read⟩ := Option.isSome_iff_exists.1 some
    exact ⟨_, _, formula_of_read? read⟩
  · rintro ⟨step, start, written⟩
    obtain ⟨nth, read, -⟩ := read?_of_formula written
    exact Option.isSome_iff_exists.2 ⟨nth, read⟩

/-- A formula in capitals, with white space wherever it may stand and with zeros in front. -/
theorem read?_writtenFormula_spaced :
    Formula (lower (trim "\t- 03 N\u3000+ 0017 ".toList)) (-3) 17 ∧
      Cut "\t- 03 N\u3000+ 0017 ".toList "- 03 n\u3000+ 0017".toList 6 "- 03 n".toList
        "\u3000+ 0017".toList ∧
      "- 03 n\u3000+ 0017".toList = "- 03 n".toList ++ "\u3000+ 0017".toList := by
  obtain ⟨-, values, -, cuts⟩ := read?_writtenFormula "\t- 03 N\u3000+ 0017 ".toList
  have cut : Cut "\t- 03 N\u3000+ 0017 ".toList "- 03 n\u3000+ 0017".toList 6 "- 03 n".toList
      "\u3000+ 0017".toList := @Cut.behindLetter _ 'n' _ (by decide +kernel)
  exact ⟨(values _ _).2 ⟨⟨-3, 17⟩, by decide +kernel, rfl, rfl⟩, cut, (cuts _ _ _ _ cut).1⟩

end Nth
end TreeQuery.Selector
