import TreeQuery.Proofs.Selector.Reading

/-!
# The shape of compiled conditions

A simple selector compiles to a condition that is no conjunction, no disjunction and no condition on
a related element.  So the parts of a compound can be read off its condition, and so can the
alternatives of a selector.
-/

namespace TreeQuery.Selector

variable [PatternEngine]

namespace Condition

/-- Whether the condition may be that of a simple selector. -/
def isSimple : Condition → Bool
  | all _ | any _ | related .. => false
  | _ => true

/-- Whether the condition looks at nothing but the place and the content of an element. -/
def isPlain : Condition → Bool
  | placed _ | empty | root => true
  | _ => false

/-- The parts of a conjunction, or the condition itself if it is none. -/
def leaves : Condition → List Condition
  | all conditions => conditions
  | condition => [condition]

/-- The parts of a disjunction, or the condition itself if it is none. -/
def alternatives : Condition → List Condition
  | any conditions => conditions
  | condition => [condition]

variable {condition : Condition} {conditions : List Condition}

/-- Tests without an argument are simple. -/
lemma isSimple_of_isPlain (h : condition.isPlain) : condition.isSimple := by
  cases condition <;> first | rfl | cases h

/-- A simple condition is its own only leaf. -/
lemma leaves_of_isSimple (h : condition.isSimple) : condition.leaves = [condition] := by
  cases condition <;> first | rfl | cases h

/-- A simple condition is its own only alternative. -/
lemma alternatives_of_isSimple (h : condition.isSimple) : condition.alternatives = [condition] := by
  cases condition <;> first | rfl | cases h

/-- The leaves of a compound are its conditions. -/
lemma leaves_allOf (simple : ∀ c ∈ conditions, c.isSimple) :
    (allOf conditions).leaves = conditions := by
  match conditions with
  | [] => rfl
  | [_] => exact leaves_of_isSimple (simple _ (.head _))
  | _ :: _ :: _ => rfl

/-- A compound of simple conditions is its own only alternative. -/
lemma alternatives_allOf (simple : ∀ c ∈ conditions, c.isSimple) :
    (allOf conditions).alternatives = [allOf conditions] := by
  match conditions with
  | [] => rfl
  | [_] => exact alternatives_of_isSimple (simple _ (.head _))
  | _ :: _ :: _ => rfl

/-- A single alternative stands for itself, so it must be no disjunction to be found again. -/
lemma alternatives_anyOf (single : ∀ c ∈ conditions, c.alternatives = [c]) :
    (anyOf conditions).alternatives = conditions := by
  match conditions with
  | [] => rfl
  | [c] => exact single c (.head _)
  | _ :: _ :: _ => rfl

variable {conditions' : List Condition}

/-- Two compounds of some conditions make a conjunction. -/
lemma allOf_append (h : conditions ≠ []) (h' : conditions' ≠ []) :
    allOf (conditions ++ conditions') = all (conditions ++ conditions') := by
  match conditions, conditions' with
  | [_], _ :: _ => rfl
  | _ :: _ :: _, _ => rfl

/-- Two selectors of some alternatives make a disjunction. -/
lemma anyOf_append (h : conditions ≠ []) (h' : conditions' ≠ []) :
    anyOf (conditions ++ conditions') = any (conditions ++ conditions') := by
  match conditions, conditions' with
  | [_], _ :: _ => rfl
  | _ :: _ :: _, _ => rfl

end Condition

/-! ### Simple selectors -/

variable {nested : Nested} {condition : Condition}

/-- Attribute tests are simple. -/
lemma attributeTest_isSimple {inner : Text} {offset : Nat}
    (h : AttributeTest.read inner offset = .ok condition) : condition.isSimple := by
  cases AttributeTest.read_eq_ok_iff.1 h <;> rfl

namespace PseudoClass

/-- Whether the condition is plain, if the pseudo-class takes no argument. -/
def plainIfBare : PseudoClass → Bool
  | plain condition => condition.isPlain
  | withArgument _ => true

/-- The conditions of the table are plain. -/
lemma isPlain_of_ofName? {name : Text} (h : ofName? name = some (.plain condition)) :
    condition.isPlain := by
  have all : table.all (·.2.plainIfBare) := rfl
  exact List.all_eq_true.1 all _ (mem_table_of_ofName? h)

/-- What a parameter reads is a simple condition. -/
lemma isSimple_of_read {name argument : Text} {offset : Nat} {parameter : Parameter}
    (h : parameter.read nested name argument offset = .ok condition) : condition.isSimple := by
  cases parameter with
  | has | not =>
    obtain ⟨inner, -, rfl⟩ := map_eq_ok_iff.1 h
    rfl
  | _ =>
    obtain ⟨a, -, rfl⟩ := Parameter.explain_map_eq_ok_iff.1 h
    rfl

/-- What a pseudo-class compiles to is a simple condition. -/
lemma isSimple_of_compile {name : Text} {offset : Nat} {argument : Option (Text × Nat)}
    (h : compile nested name offset argument = .ok condition) : condition.isSimple := by
  rcases compile_eq_ok_iff.1 h with ⟨known, -⟩ | ⟨parameter, text, start, -, -, read⟩
  · exact Condition.isSimple_of_isPlain (isPlain_of_ofName? known)
  · exact isSimple_of_read read

end PseudoClass

namespace Compound

variable {cursor after : Cursor}

/-- What is read as a simple selector is simple as a condition. -/
lemma ReadsSimple.isSimple (h : ReadsSimple nested cursor condition after) :
    condition.isSimple := by
  cases h with
  | id | hasClass | universal | universalTag | tag => rfl
  | attributeTest _ _ read => exact attributeTest_isSimple read
  | plain _ _ _ _ compiled => exact PseudoClass.isSimple_of_compile compiled
  | call _ _ _ _ compiled => exact PseudoClass.isSimple_of_compile compiled

/-- What a compound is read as are simple conditions. -/
lemma simples_isSimple {conditions : List Condition} (h : simples nested cursor = .ok conditions) :
    ∀ c ∈ conditions, c.isSimple := by
  induction conditions generalizing cursor with
  | nil => nofun
  | cons first later ih =>
    obtain ⟨after, reads, rest⟩ := exists_readsSimple_of_simples h
    exact List.forall_mem_cons.2 ⟨reads.isSimple, ih rest⟩

/-- A compound means that all of its simple selectors hold. -/
lemma read_eq_ok_iff {text : Text} {offset : Nat} :
    read nested text offset = .ok condition ↔ ∃ conditions,
      simples nested (.start offset text) = .ok conditions ∧
        Condition.allOf conditions = condition :=
  map_eq_ok_iff

/-- A compound is a single alternative. -/
lemma alternatives_of_read {text : Text} {offset : Nat}
    (h : read nested text offset = .ok condition) : condition.alternatives = [condition] := by
  obtain ⟨conditions, simples, rfl⟩ := read_eq_ok_iff.1 h
  exact Condition.alternatives_allOf (simples_isSimple simples)

end Compound

/-! ### Alternatives -/

/-- What has been read of a selector holds no disjunctions: its finished alternatives are single
ones, and so is the open one if it is complete. -/
structure Progress.Single (progress : Progress) : Prop where
  finished : ∀ c ∈ progress.finished, c.alternatives = [c]
  complete : ∀ c, progress.chain = .complete c → c.alternatives = [c]

namespace Progress

variable {query : Query} {progress progress' : Progress}

/-- At the start there are no alternatives. -/
lemma single_start : start.Single := ⟨nofun, nofun⟩

/-- A compound completes an alternative as the condition of the compound, or as a conjunction. -/
lemma complete_of_compound {chain chain' : Chain} {text : Text} {offset : Nat}
    (h : chain.compound nested text offset = .ok chain') :
    ∃ condition, chain' = .complete condition ∧ condition.alternatives = [condition] := by
  obtain ⟨condition, read, ⟨-, rfl⟩ | ⟨left, k, o, -, rfl⟩⟩ := Chain.compound_eq_ok_iff.1 h
  · exact ⟨condition, rfl, Compound.alternatives_of_read read⟩
  · exact ⟨_, rfl, rfl⟩

/-- No alternative is complete right after a separator. -/
lemma step_separator {mark : Separator} {offset : Nat}
    (h : progress.step nested query (.separator mark offset) = .ok progress')
    (condition : Condition) : progress'.chain ≠ .complete condition := by
  cases mark with
  | comma =>
    obtain ⟨_, _, rfl⟩ := step_comma_eq_ok_iff.1 h
    nofun
  | combinator k =>
    obtain ⟨chain, next, rfl⟩ := map_eq_ok_iff.1 h
    unfold Chain.combinator at next
    split at next <;> cases next <;> nofun

/-- A complete alternative is one more that may be finished. -/
lemma Single.all {last : Condition} (single : progress.Single)
    (complete : progress.chain = .complete last) :
    ∀ c ∈ progress.finished ++ [last], c.alternatives = [c] := by
  intro c member
  rcases List.mem_append.1 member with member | member
  · exact single.finished c member
  · cases List.mem_singleton.1 member
    exact single.complete _ complete

/-- A token keeps the alternatives single. -/
lemma Single.step {token : Token} (single : progress.Single)
    (h : progress.step nested query token = .ok progress') : progress'.Single := by
  cases token with
  | compound text offset =>
    obtain ⟨chain, compound, rfl⟩ := map_eq_ok_iff.1 h
    obtain ⟨condition, rfl, alone⟩ := complete_of_compound compound
    exact ⟨single.finished, fun c e => by cases e; exact alone⟩
  | separator mark offset =>
    refine ⟨?_, fun c e => absurd e (step_separator h c)⟩
    cases mark with
    | combinator k =>
      obtain ⟨chain, -, rfl⟩ := map_eq_ok_iff.1 h
      exact single.finished
    | comma =>
      obtain ⟨last, complete, rfl⟩ := step_comma_eq_ok_iff.1 h
      exact single.all complete

/-- Several tokens keep the alternatives single. -/
lemma Single.foldlM {tokens : List Token} (single : progress.Single)
    (h : tokens.foldlM (Progress.step nested query) progress = .ok progress') :
    progress'.Single :=
  foldlM_keeps (fun _ _ _ _ single next => single.step next) single h

/-- The alternatives of a selector are those that its progress has collected. -/
lemma Single.alternatives {last : Condition} (single : progress.Single)
    (complete : progress.chain = .complete last) :
    (Condition.anyOf (progress.finished ++ [last])).alternatives = progress.finished ++ [last] :=
  Condition.alternatives_anyOf (single.all complete)

end Progress

end TreeQuery.Selector
