import TreeQuery.Proofs.Selector.Concatenation
import TreeQuery.Proofs.Selector.NormalForm

/-!
# Compounds of names

A tag, an id and classes may be written one after the other: names hold no marks, so each of them
ends where the mark of the next one stands.  Main statement: `parse_names`.
-/

namespace TreeQuery.Selector

/-! ### Characters of names -/

/-- No letter and no digit is white space. -/
lemma not_isBlank_of_isAlphanumeric {c : Char} (h : Text.isAlphanumeric c) :
    Text.isBlank c = false := by
  have apart : (Text.whiteSpace.inter Text.lettersAndNumbers).changes = [] := by decide +kernel
  have both : (Text.whiteSpace.inter Text.lettersAndNumbers).mem c = false := by
    rw [Text.CodePoints.mem, Text.CodePoints.holds, apart]
    rfl
  rw [Text.CodePoints.mem_inter] at both
  simpa [Text.isBlank, show Text.lettersAndNumbers.mem c from h] using both

/-- Characters of names are characters of compounds. -/
lemma plain_of_isNameChar {c : Char} (h : isNameChar c) :
    Text.isBlank c = false ∧ c ∉ ",>+~([".toList := by
  constructor
  · rcases Bool.or_eq_true_iff.1 h with h | h
    · rcases Bool.or_eq_true_iff.1 h with h | h
      · exact not_isBlank_of_isAlphanumeric h
      · cases beq_iff_eq.1 h
        decide
    · cases beq_iff_eq.1 h
      decide
  · intro member
    have none : ",>+~([".toList.all fun c => !isNameChar c := by decide +kernel
    exact absurd h (by simpa using List.all_eq_true.1 none c member)

namespace IsName

variable {name : Text}

instance : Decidable (IsName name) :=
  decidable_of_iff (name ≠ [] ∧ name.all isNameChar)
    ⟨fun h => ⟨h.1, List.all_eq_true.1 h.2⟩, fun h => ⟨h.nonempty, List.all_eq_true.2 h.chars⟩⟩

/-- A name is written as a compound is. -/
lemma compoundText (named : IsName name) : CompoundText name :=
  .of_chars fun c member => plain_of_isNameChar (named.chars c member)

/-- A name holds no other characters. -/
lemma not_mem {c : Char} (named : IsName name) (other : isNameChar c = false) : c ∉ name :=
  fun member => Bool.false_ne_true (other.symm.trans (named.chars c member))

/-- A name in small letters is a tag as trees hold it. -/
lemma normalizeTag_eq (named : IsName name) (small : Text.Small name) :
    normalizeTag name = name := by
  have bar : '|' ∉ name := named.not_mem (by decide +kernel)
  have front : name.dropWhile (· == '|') = name := by
    cases name with
    | nil => rfl
    | cons c rest =>
      exact List.dropWhile_cons_of_neg fun first => bar (beq_iff_eq.1 first ▸ .head _)
  have same : (name.map fun c => if c == '|' then ':' else c) = name := by
    refine (List.map_congr_left fun c member => if_neg fun e => ?_).trans (List.map_id name)
    exact bar (beq_iff_eq.1 e ▸ member)
  rw [normalizeTag, front, same, Text.lower_of_small small]

end IsName

/-! ### Parts of compounds -/

namespace Spells

/-- A text is taken as a whole if all of its characters are. -/
lemma takeWhile_eq {p : Char → Bool} {run : Text} (all : ∀ c ∈ run, p c) (offset : Nat)
    (afterCompound : Bool) :
    (⟨offset, run, afterCompound⟩ : Cursor).takeWhile p =
      (run, Cursor.past ⟨offset, run, afterCompound⟩ run []) :=
  Cursor.takeWhile_of_run ⟨all, nofun⟩ (List.append_nil run).symm

/-- Classes start with the mark of a simple selector. -/
lemma marked_classes (names : List Text) : Marked (names.flatMap fun name => '.' :: name) := by
  cases names with
  | nil => nofun
  | cons name names =>
    intro c first
    cases first
    decide

variable [PatternEngine] {text name : Text}

/-- A single simple selector that takes the whole text. -/
lemma single {condition : Condition} {after : Cursor} (compound : CompoundText text)
    (reads : Compound.ReadsSimple parseAt (.start 0 text) condition after)
    (ended : after.rest = []) : Spells text [condition] where
  compound := compound
  simples := by
    rw [Compound.simples_of_readsSimple reads, Compound.simples_eq_nil_iff.2 ended]
    rfl

/-- A name by itself spells a tag. -/
lemma tag (named : IsName name) : Spells name [.tag (normalizeTag name)] := by
  obtain ⟨c, rest, rfl⟩ := List.exists_cons_of_ne_nil named.nonempty
  have letters : ∀ d ∈ c :: rest, isTagChar d := fun d member =>
    isTagChar_of_isNameChar (named.chars d member)
  exact single named.compoundText (.tag rfl (letters c (.head _)) (takeWhile_eq letters ..)) rfl

/-- A name behind a hash spells an id. -/
lemma id (named : IsName name) : Spells ('#' :: name) [.id name] :=
  single (.char (by decide) (by decide) named.compoundText)
    (.id rfl (takeWhile_eq named.chars ..) named.nonempty) rfl

/-- A name behind a dot spells a class. -/
lemma hasClass (named : IsName name) : Spells ('.' :: name) [.hasClass name] :=
  single (.char (by decide) (by decide) named.compoundText)
    (.hasClass rfl (takeWhile_eq named.chars ..) named.nonempty) rfl

/-- Names behind dots spell their classes, in order. -/
lemma classes {names : List Text} (named : ∀ name ∈ names, IsName name) :
    Spells (names.flatMap fun name => '.' :: name) (names.map .hasClass) := by
  induction names with
  | nil => exact nil
  | cons name names ih =>
    obtain ⟨here, later⟩ := List.forall_mem_cons.1 named
    exact (hasClass here).append (ih later) (marked_classes names)

end Spells

variable [PatternEngine]

/-- A tag, possibly an id, and classes that are written one after the other ask for all of them. -/
theorem parse_names {tag : Text} {id : Option Text} {classes : List Text} (named : IsName tag)
    (named' : ∀ value ∈ id, IsName value) (named'' : ∀ name ∈ classes, IsName name) :
    parse (tag ++ id.elim [] ('#' :: ·) ++ classes.flatMap fun name => '.' :: name) =
      .ok (.allOf (.tag (normalizeTag tag) :: (id.toList.map .id ++ classes.map .hasClass))) := by
  have front : Spells (tag ++ id.elim [] ('#' :: ·))
      ([.tag (normalizeTag tag)] ++ id.toList.map .id) := by
    cases id with
    | none => exact (Spells.tag named).append .nil nofun
    | some value =>
      exact (Spells.tag named).append (.id (named' value rfl)) fun c first => by cases first; decide
  have whole := front.append (.classes named'') (Spells.marked_classes classes)
  rw [List.append_assoc [_]] at whole
  exact whole.parse_eq (List.cons_ne_nil _ _)

end TreeQuery.Selector
