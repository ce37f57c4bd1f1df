import TreeQuery.Text.Alphanumeric
import TreeQuery.Text.Words
import TreeQuery.Selector.Error
import TreeQuery.Selector.Region

/-!
# Reading a selector

A cursor stands between the characters of a text, at a byte offset, and remembers whether it has
just read a compound: white space is a combinator only there.  Each operation answers what it read
and the cursor after it; one that fails leaves the cursor where it gave up.
-/

namespace TreeQuery.Selector

/-- Whether a character may stand in a name. -/
def isNameChar (c : Char) : Bool := Text.isAlphanumeric c || c == '-' || c == '_'

/-- Whether a character may stand in a tag, where bars set off a namespace. -/
def isTagChar (c : Char) : Bool := isNameChar c || c == '|'

/-- A piece of a selector, with the byte offset where it starts. -/
inductive Token where
  /-- Tests on one element, as written. -/
  | compound (text : Text) (offset : Nat)
  | separator (separator : Separator) (offset : Nat)
deriving DecidableEq, Repr

/-- A place in a text that is being read. -/
structure Cursor where
  /-- The offset of the next character in bytes. -/
  offset : Nat
  /-- What is still to be read. -/
  rest : Text
  /-- Whether a compound was read last. -/
  afterCompound : Bool
deriving DecidableEq, Repr

namespace Cursor

/-- The cursor in front of a text that starts at `offset`. -/
def start (offset : Nat) (text : Text) : Cursor := ⟨offset, text, false⟩

/-- The cursor after reading `taken`, with `rest` left. -/
def past (cursor : Cursor) (taken rest : Text) : Cursor :=
  { cursor with offset := cursor.offset + Text.byteLength taken, rest := rest }

/-- From `cursor` one comes to `after` by reading exactly `taken`. -/
structure Reads (cursor : Cursor) (taken : Text) (after : Cursor) : Prop where
  rest_eq : cursor.rest = taken ++ after.rest
  offset_eq : after.offset = cursor.offset + Text.byteLength taken

/-- Nothing is read by staying. -/
theorem Reads.refl (cursor : Cursor) : Reads cursor [] cursor := ⟨rfl, by simp⟩

/-- Two texts are read one after the other. -/
theorem Reads.trans {a b c : Cursor} {s t : Text} (h : Reads a s b) (h' : Reads b t c) :
    Reads a (s ++ t) c :=
  ⟨by rw [h.rest_eq, h'.rest_eq, List.append_assoc],
    by rw [h'.offset_eq, h.offset_eq, Text.byteLength_append, Nat.add_assoc]⟩

/-- What stands in front is read by going past it. -/
theorem Reads.past {cursor : Cursor} {taken rest : Text} (h : cursor.rest = taken ++ rest) :
    Reads cursor taken (cursor.past taken rest) :=
  ⟨h, rfl⟩

/-- What has been read and what is left are as long as what was there. -/
theorem Reads.length_eq {a b : Cursor} {s : Text} (h : Reads a s b) :
    a.rest.length = s.length + b.rest.length := by
  rw [h.rest_eq, List.length_append]

/-- The next character, which stays unread. -/
def peek (cursor : Cursor) : Option Char := cursor.rest.head?

/-- Reads one character. -/
def advance (cursor : Cursor) : Option Char × Cursor :=
  match cursor.rest with
  | [] => (none, cursor)
  | c :: rest => (some c, cursor.past [c] rest)

/-- Reads the longest run of characters that satisfy `p`. -/
def takeWhile (p : Char → Bool) (cursor : Cursor) : Text × Cursor :=
  (cursor.rest.takeWhile p, cursor.past (cursor.rest.takeWhile p) (cursor.rest.dropWhile p))

/-- Reads white space and answers whether there was any. -/
def blanks (cursor : Cursor) : Bool × Cursor :=
  (!(cursor.takeWhile Text.isBlank).1.isEmpty, (cursor.takeWhile Text.isBlank).2)

/-- Reads a name, possibly empty. -/
def name (cursor : Cursor) : Text × Cursor := cursor.takeWhile isNameChar

/-- Reads a tag with its namespace, possibly empty. -/
def tag (cursor : Cursor) : Text × Cursor := cursor.takeWhile isTagChar

/-- Reads a bracketed region and answers the text between its brackets. -/
def region (brackets : Brackets) (cursor : Cursor) : Except Error Text × Cursor :=
  match cursor.rest with
  | [] => (.error ⟨.unexpected [], cursor.offset⟩, cursor)
  | c :: rest =>
    if c = brackets.opening then
      match Region.scan brackets (.start brackets) (cursor.offset + c.utf8Size) rest with
      | .closed body after => (.ok body, cursor.past (c :: body ++ [brackets.closing]) after)
      | .unfinished (some (quote, offset)) =>
        (.error ⟨.unterminatedQuote quote cursor.rest, offset⟩, cursor.past cursor.rest [])
      | .unfinished none =>
        (.error ⟨.unbalanced c cursor.rest, cursor.offset⟩, cursor.past cursor.rest [])
    else (.error ⟨.unexpected cursor.rest, cursor.offset⟩, cursor)

/-- The longest prefix with a property is read. -/
theorem takeWhile_reads (p : Char → Bool) (cursor : Cursor) :
    Reads cursor (cursor.takeWhile p).1 (cursor.takeWhile p).2 :=
  .past List.takeWhile_append_dropWhile.symm

/-- What was read as a region is its body between the brackets. -/
theorem region_reads {brackets : Brackets} {cursor after : Cursor} {body : Text}
    (h : cursor.region brackets = (.ok body, after)) :
    Reads cursor (brackets.opening :: body ++ [brackets.closing]) after := by
  unfold region at h
  split at h
  · cases h
  · rename_i c rest hrest
    split at h
    · rename_i hc
      split at h
      · rename_i hscan
        cases h
        refine hc ▸ .past ?_
        rw [hrest, Region.eq_of_scan_eq_closed hscan]
        simp
      · cases h
      · cases h
    · cases h

/-- Reads on to the end of a compound: up to white space or a separator outside brackets. -/
def compound (cursor : Cursor) : Except Error Text × Cursor :=
  match _hrest : cursor.rest with
  | [] => (.ok [], cursor)
  | c :: rest =>
    match Brackets.ofOpening? c with
    | some brackets =>
      match _hregion : cursor.region brackets with
      | (.error e, after) => (.error e, after)
      | (.ok body, after) =>
        match after.compound with
        | (.error e, last) => (.error e, last)
        | (.ok text, last) => (.ok (brackets.opening :: body ++ [brackets.closing] ++ text), last)
    | none =>
      if Text.isBlank c || (Separator.ofChar? c).isSome then (.ok [], cursor)
      else
        match (cursor.past [c] rest).compound with
        | (.error e, last) => (.error e, last)
        | (.ok text, last) => (.ok (c :: text), last)
termination_by cursor.rest.length
decreasing_by
  · have := (region_reads _hregion).length_eq
    simp at this
    omega
  · simp [_hrest, past]

/-- A compound is answered as it was read. -/
theorem compound_reads {cursor after : Cursor} {text : Text}
    (h : cursor.compound = (.ok text, after)) : Reads cursor text after := by
  fun_induction compound cursor generalizing text after with
  | case1 => cases h; exact .refl _
  | case2 => cases h
  | case3 => cases h
  | case4 cursor c rest _ brackets _ body middle hregion text' last hlast ih =>
    cases h
    exact (region_reads hregion).trans (ih hlast)
  | case5 => cases h; exact .refl _
  | case6 => cases h
  | case7 cursor c rest hrest _ _ text' last hlast ih =>
    cases h
    exact (Reads.past (by simp [hrest])).trans (ih hlast)

/-- A compound that starts with neither white space nor a separator is not empty. -/
theorem compound_ne_nil {cursor after : Cursor} {text rest : Text} {c : Char}
    (h : cursor.compound = (.ok text, after)) (hrest : cursor.rest = c :: rest)
    (hblank : Text.isBlank c = false) (hseparator : Separator.ofChar? c = none) : text ≠ [] := by
  unfold compound at h
  split at h
  · simp_all
  · split at h
    · split at h
      · cases h
      · split at h
        · cases h
        · cases h; simp
    · split at h
      · simp_all
      · split at h
        · cases h
        · cases h; simp

/-- Reads the next token, if there is one.  White space between two compounds is a token; elsewhere
it is skipped. -/
def next (cursor : Cursor) : Except Error (Option Token) × Cursor :=
  let front := cursor.blanks.2
  match front.rest with
  | [] => (.ok none, front)
  | c :: rest =>
    match Separator.ofChar? c with
    | some separator =>
      (.ok (some (.separator separator front.offset)),
        { (front.past [c] rest).blanks.2 with afterCompound := false })
    | none =>
      if cursor.blanks.1 && front.afterCompound then
        (.ok (some (.separator (.combinator .descendant) cursor.offset)),
          { front with afterCompound := false })
      else
        match front.compound with
        | (.error e, after) => (.error e, after)
        | (.ok text, after) =>
          (.ok (some (.compound text front.offset)), { after with afterCompound := true })

/-- The first character after white space is not white space. -/
theorem blanks_stop {cursor : Cursor} {c : Char} {rest : Text}
    (h : cursor.blanks.2.rest = c :: rest) : Text.isBlank c = false := by
  have := List.head?_dropWhile_not Text.isBlank cursor.rest
  rw [show cursor.rest.dropWhile Text.isBlank = c :: rest from h] at this
  simpa using this

/-- Every token takes at least one character. -/
theorem length_rest_next {cursor after : Cursor} {token : Token}
    (h : cursor.next = (.ok (some token), after)) : after.rest.length < cursor.rest.length := by
  have front_le : cursor.blanks.2.rest.length ≤ cursor.rest.length := by
    have := (takeWhile_reads Text.isBlank cursor).length_eq
    simp only [blanks]
    omega
  unfold next at h
  dsimp only at h
  split at h
  · cases h
  · rename_i c rest hrest
    split at h
    · cases h
      have := (takeWhile_reads Text.isBlank (cursor.blanks.2.past [c] rest)).length_eq
      simp only [hrest, List.length_cons] at front_le
      simp only [blanks, past] at this ⊢
      omega
    · rename_i hseparator
      split at h
      · rename_i hblank
        cases h
        have := (takeWhile_reads Text.isBlank cursor).length_eq
        simp only [Bool.and_eq_true, blanks, Bool.not_eq_true', List.isEmpty_eq_false_iff] at hblank
        have := List.length_pos_iff.2 hblank.1
        simp only [blanks]
        omega
      · split at h
        · cases h
        · rename_i text last hcompound
          cases h
          have nonempty := compound_ne_nil hcompound hrest (blanks_stop hrest) hseparator
          have := (compound_reads hcompound).length_eq
          have := List.length_pos_iff.2 nonempty
          simp only
          omega

/-- Reads all remaining tokens. -/
def tokens (cursor : Cursor) : Except Error (List Token) × Cursor :=
  match _hnext : cursor.next with
  | (.error e, after) => (.error e, after)
  | (.ok none, after) => (.ok [], after)
  | (.ok (some token), after) =>
    match after.tokens with
    | (.error e, last) => (.error e, last)
    | (.ok later, last) => (.ok (token :: later), last)
termination_by cursor.rest.length
decreasing_by exact length_rest_next _hnext

end Cursor
end TreeQuery.Selector
