import TreeQuery.Pattern.Basic
import TreeQuery.Proofs.Selector.Formulas
import TreeQuery.Proofs.Selector.Nesting
import TreeQuery.Proofs.Selector.NormalForm
import TreeQuery.Proofs.Selector.Quoting

/-!
# How formulas are shown

A formula is shown as the rules have it, without white space and in small letters, so it is read
back as itself.  The least of the 32-bit integers cannot be read, and no formula that is read has it
as a coefficient.  Main statement: `formulas_shownAndRead`.
-/

namespace TreeQuery.Selector
open Grammar
open Text (lower ofInt ofNat trim)

variable {n : Nat} {i : Int} {c : Char}

/-! ### Numbers -/

/-- A natural number within 32 bits is written with digits. -/
lemma digits_ofNat (bounded : n ≤ 2147483647) : Digits 2147483647 (ofNat n) :=
  digits_iff.2 ⟨n, Text.toNat?_ofNat n, bounded⟩

/-- The digits of a natural number give it back. -/
lemma ofDigitChars_ofNat (n : Nat) : Nat.ofDigitChars 10 (ofNat n) 0 = n :=
  Nat.ofDigitChars_ten_toDigits

/-- Digits behind a sign are a number. -/
lemma number_ofNat {needed : Bool} {sign : Text} {unit : Int} (signed : Sign needed sign unit)
    (bounded : n ≤ 2147483647) : Number needed (sign ++ ofNat n) (unit * n) := by
  have number := Number.signed signed blank_nil (digits_ofNat bounded)
  rwa [List.append_nil, ofDigitChars_ofNat] at number

/-- A number is shown as the rules have it. -/
lemma number_ofInt (bounded : i.natAbs ≤ 2147483647) : Number false (ofInt i) i := by
  unfold ofInt
  split
  · have number : Number false _ _ := number_ofNat .minus bounded
    rwa [show -1 * (i.natAbs : Int) = i by omega] at number
  · have number := number_ofNat .bare bounded
    rwa [show 1 * (i.natAbs : Int) = i by omega] at number

/-- Where a sign is needed, one is put in front of a number that has none. -/
lemma number_signed_ofInt (bounded : i.natAbs ≤ 2147483647) :
    Number true (if i < 0 then ofInt i else '+' :: ofInt i) i := by
  unfold ofInt
  split
  · have number : Number true _ _ := number_ofNat .minus bounded
    rwa [show -1 * (i.natAbs : Int) = i by omega] at number
  · have number : Number true _ _ := number_ofNat .plus bounded
    rwa [show 1 * (i.natAbs : Int) = i by omega] at number

/-- An integer is written with digits and at most a minus. -/
lemma ofInt_chars : ∀ c ∈ ofInt i, c = '-' ∨ c.isDigit := by
  have digits : ∀ c ∈ ofNat i.natAbs, c.isDigit := fun c member =>
    Nat.isDigit_of_mem_toDigits (by decide) (by decide) member
  unfold ofInt
  split
  · exact List.forall_mem_cons.2 ⟨.inl rfl, fun c member => .inr (digits c member)⟩
  · exact fun c member => .inr (digits c member)

/-! ### Formulas -/

namespace Nth

variable {nth : Nth}

/-- What can be negated in 32 bits has a size of 31 bits. -/
lemma natAbs_le {v : Int32} (h : v ≠ Int32.minValue) : v.toInt.natAbs ≤ 2147483647 := by
  have low := v.le_toInt
  have high := v.toInt_lt
  have other : v.toInt ≠ -2147483648 := fun e => h (Int32.toInt_inj.1 e)
  omega

/-- A formula is shown as the rules have it. -/
lemma formula_render (h : nth.Negatable) : Formula nth.render nth.step.toInt nth.start.toInt := by
  have step := number_ofInt (natAbs_le h.step)
  have start := natAbs_le h.start
  unfold render
  dsimp only
  split
  · rename_i zero
    rw [zero]
    exact .number (number_ofInt start)
  · split
    · rename_i zero
      rw [zero, ← List.append_nil (ofInt _)]
      exact .progression (.number step) blank_nil blank_nil .none
    · have summand := number_signed_ofInt start
      split
      · rename_i negative
        rw [if_pos (show nth.start.toInt < 0 from Int32.lt_iff_toInt_lt.1 negative)] at summand
        rw [← List.append_nil (ofInt nth.step.toInt)]
        exact .progression (.number step) blank_nil blank_nil (.number summand)
      · rename_i other
        have other : ¬ nth.start.toInt < 0 := fun less => other (Int32.lt_iff_toInt_lt.2 less)
        rw [if_neg other] at summand
        rw [← List.append_nil (ofInt nth.step.toInt)]
        exact .progression (.number step) blank_nil blank_nil (.number summand)

/-- The characters that formulas are shown with. -/
lemma render_chars (nth : Nth) : ∀ c ∈ nth.render, c = 'n' ∨ c = '+' ∨ c = '-' ∨ c.isDigit := by
  have number {i : Int} : ∀ c ∈ ofInt i, c = 'n' ∨ c = '+' ∨ c = '-' ∨ c.isDigit :=
    fun c member => .inr (.inr (ofInt_chars c member))
  unfold render
  dsimp only
  split
  · exact number
  · split
    · exact List.forall_mem_append.2 ⟨number, List.forall_mem_singleton.2 (.inl rfl)⟩
    · split
      · exact List.forall_mem_append.2 ⟨number, List.forall_mem_cons.2 ⟨.inl rfl, number⟩⟩
      · exact List.forall_mem_append.2 ⟨number, List.forall_mem_cons.2 ⟨.inl rfl,
          List.forall_mem_cons.2 ⟨.inr (.inl rfl), number⟩⟩⟩

/-- No digit is a capital letter. -/
lemma not_isUpper_of_isDigit (digit : c.isDigit) : c.isUpper = false := by
  have range : 48 ≤ c.toNat ∧ c.toNat ≤ 57 := by
    simpa [Char.isDigit, UInt32.le_iff_toNat_le] using digit
  refine decide_eq_false fun capital => ?_
  have above : 65 ≤ c.toNat := capital.1
  omega

/-- A formula is shown in small letters and without white space at its ends. -/
lemma lower_trim_render (nth : Nth) : lower (trim nth.render) = nth.render := by
  have plain : ∀ c ∈ nth.render, Text.isBlank c = false ∧ c.isUpper = false := by
    intro c member
    rcases render_chars nth c member with rfl | rfl | rfl | digit
    · decide
    · decide
    · decide
    · exact ⟨isBlank_of_isDigit digit, not_isUpper_of_isDigit digit⟩
  have trimmed : Text.Trimmed nth.render :=
    ⟨fun c first => (plain c (List.mem_of_mem_head? first)).1,
      fun c last => (plain c (List.mem_of_mem_getLast? last)).1⟩
  rw [trimmed.trim_eq, Text.lower_of_small fun c member => (plain c member).2]

/-- What is shown is read back. -/
lemma read?_of_render (h : nth.Negatable) : read? nth.render = some nth := by
  have formula := formula_render h
  rw [← lower_trim_render] at formula
  obtain ⟨⟨step, start⟩, read, same, same'⟩ := read?_of_formula formula
  cases Int32.toInt_inj.1 same
  cases Int32.toInt_inj.1 same'
  exact read

end Nth

/-! ### Pseudo-classes -/

/-- The names of the counting pseudo-classes are names. -/
lemma isName_pseudoClass (counting : Counting) : IsName counting.pseudoClass := by
  rcases counting with ⟨_ | _, _ | _⟩ <;> decide +kernel

section

variable [PatternEngine]

/-- The counting pseudo-classes are found by their names. -/
lemma ofName?_pseudoClass (counting : Counting) :
    PseudoClass.ofName? counting.pseudoClass = some (.withArgument (.nth counting)) := by
  rcases counting with ⟨_ | _, _ | _⟩ <;> rfl

/-- A counting pseudo-class compiles to the formula that its argument is read as. -/
lemma compile_of_read? {name argument : Text} {start : Nat} {counting : Counting} {formula : Nth}
    (known : PseudoClass.ofName? name = some (.withArgument (.nth counting)))
    (read : Nth.read? argument = some formula) :
    PseudoClass.compile parseAt name 0 (some (argument, start)) = .ok (.nth counting formula) := by
  have given : Parameter.read parseAt name argument start (.nth counting) =
      .ok (.nth counting formula) :=
    Parameter.explain_map_eq_ok_iff.2 ⟨formula, Parameter.orElse_eq_ok_iff.2 read, rfl⟩
  exact PseudoClass.compile_eq_ok_iff.2 (.inr ⟨_, argument, start, known, rfl, given⟩)

/-- A test for a formula is shown as a pseudo-class that compiles to it. -/
lemma parse_render_nth {formula : Nth} (counting : Counting) (h : formula.Negatable) :
    parse (Condition.nth counting formula).render = .ok (.nth counting formula) := by
  have balanced : Balanced .round formula.render := by
    refine .of_chars fun c member hides => ?_
    rcases formula.render_chars c member with rfl | rfl | rfl | digit
    · exact absurd hides (by decide)
    · exact absurd hides (by decide)
    · exact absurd hides (by decide)
    · have none : ['\\', '"', '\'', '(', ')'].all fun c => !c.isDigit := by decide
      have other := List.all_eq_true.1 none c hides
      rw [digit] at other
      cases other
  have spells := Spells.call (isName_pseudoClass counting) balanced fun start =>
    compile_of_read? (ofName?_pseudoClass counting) (Nth.read?_of_render h)
  have shown : (Condition.nth counting formula).render =
      ':' :: counting.pseudoClass ++ ('(' :: formula.render ++ [')']) :=
    List.append_assoc _ _ _
  rw [shown]
  exact spells.parse_eq (List.cons_ne_nil _ _)

/-- Every formula but those with the least 32-bit integer is read back as it is shown, and no other
one is read from any text or comes into a condition by way of a selector.  A test for a formula in
such a condition is shown as a selector that compiles to the same test. -/
theorem formulas_shownAndRead :
    (∀ nth : Nth, nth.Negatable → Nth.read? nth.render = some nth) ∧
    (∀ t nth, Nth.read? t = some nth → nth.Negatable ∧ Nth.read? nth.render = some nth) ∧
    ∀ s condition counting formula, parse s = .ok condition →
      (Condition.nth counting formula).Within condition →
        parse (Condition.nth counting formula).render = .ok (.nth counting formula) := by
  refine ⟨fun _ => Nth.read?_of_render, fun t nth read => ?_,
    fun s condition counting formula read within => ?_⟩
  · have negatable := Nth.negatable_of_read? read
    exact ⟨negatable, Nth.read?_of_render negatable⟩
  · have form : PartForm condition := .normal (normalForm_of_parseAt read)
    exact parse_render_nth counting (form.of_within within).negatable

end

attribute [local instance] Pattern.engine

/-- The largest coefficients, and a formula in a selector inside another one. -/
theorem formulas_shownAndRead_nested :
    (⟨-2147483647, 2147483647⟩ : Nth).Negatable ∧
      Nth.read? "-2147483647n+2147483647".toList = some ⟨-2147483647, 2147483647⟩ ∧
      parse ":not(:NTH-last-of-type( - 03N + 4 ))".toList = .ok (.not (.nth ⟨true, true⟩ ⟨-3, 4⟩)) ∧
      parse ":nth-last-of-type(-3n+4)".toList = .ok (.nth ⟨true, true⟩ ⟨-3, 4⟩) := by
  obtain ⟨shown, -, compiled⟩ := formulas_shownAndRead
  have negatable : (⟨-2147483647, 2147483647⟩ : Nth).Negatable := ⟨by decide, by decide⟩
  have argument : Nth.read? " - 03N + 4 ".toList = some ⟨-3, 4⟩ := by decide +kernel
  have inside : Parenthesized " - 03N + 4 ".toList := by decide +kernel
  have named : IsName "NTH-last-of-type".toList := by decide +kernel
  have inner : parse ":NTH-last-of-type( - 03N + 4 )".toList = .ok (.nth ⟨true, true⟩ ⟨-3, 4⟩) :=
    (Spells.call named inside.balanced fun _ => compile_of_read? rfl argument).parse_eq
      (List.cons_ne_nil _ _)
  have closed : Parenthesized ":NTH-last-of-type( - 03N + 4 )".toList := by decide +kernel
  have whole : parse ":not(:NTH-last-of-type( - 03N + 4 ))".toList =
      .ok (.not (.nth ⟨true, true⟩ ⟨-3, 4⟩)) := by
    refine (parse_around .not closed.balanced .nil).trans ?_
    rw [inner]
    rfl
  have formula : (⟨-2147483647, 2147483647⟩ : Nth).render =
      "-2147483647n+2147483647".toList := by decide +kernel
  have test : (Condition.nth ⟨true, true⟩ ⟨-3, 4⟩).render =
      ":nth-last-of-type(-3n+4)".toList := by decide +kernel
  refine ⟨negatable, ?_, whole, ?_⟩
  · rw [← formula]
    exact shown _ negatable
  · rw [← test]
    exact compiled _ _ _ _ whole (.not .self)

end TreeQuery.Selector
