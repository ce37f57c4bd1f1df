import TreeQuery.Document.Spec
import TreeQuery.Json.Skip

/-!
# Reading described nodes

A document comes as a JSON list of nodes.  A node is an object with the members `tag`, `attrs`,
`text`, `data` and `children`, all of them optional, or a list of their values in this order.  Types
are checked while reading, so the first fault in the text decides.
-/

namespace TreeQuery.NodeSpec

open Json

/-- How many lists and objects may be nested, counted down from here to one. -/
def nesting : Nat := 128

/-- A string. -/
def readText (t : Text) : Except Fault (Text × Text) :=
  match skipSpace t with
  | '"' :: rest => stringBody rest
  | t => .error (wrongType t)

/-- A string or `null`. -/
def readOptional (t : Text) : Except Fault (Option Text × Text) :=
  match skipSpace t with
  | 'n' :: rest => (literal "ull".toList rest).map fun after => (none, after)
  | t => (readText t).map fun (content, after) => (some content, after)

/-- The start of the next entry of a list, or `none` before the closing bracket. -/
def nextEntry (first : Bool) (t : Text) : Except Fault (Option Text) :=
  match skipSpace t with
  | [] => .error .unfinished
  | ']' :: _ => .ok none
  | c :: rest =>
    if first then .ok (some (c :: rest))
    else if c = ',' then
      match skipSpace rest with
      | [] => .error .unfinished
      | ']' :: _ => .error .malformed
      | entry => .ok (some entry)
    else .error .malformed

/-- The text after the bracket that must close a list here. -/
def closeList (t : Text) : Except Fault Text :=
  match skipSpace t with
  | [] => .error .unfinished
  | ']' :: rest => .ok rest
  | _ => .error .malformed

/-- The name of the next member of an object and the text after it, or `none` and the text after the
closing brace. -/
def nextMember (first : Bool) (t : Text) : Except Fault (Option Text × Text) :=
  let name (t : Text) : Except Fault (Option Text × Text) :=
    match t with
    | [] => .error .unfinished
    | '"' :: rest => (stringBody rest).map fun (content, after) => (some content, after)
    | _ => .error .malformed
  match skipSpace t with
  | [] => .error .unfinished
  | '\x7d' :: rest => .ok (none, rest)
  | t =>
    if first then name t
    else
      match t with
      | ',' :: rest => name (skipSpace rest)
      | _ => .error .malformed

/-- The text after the colon that must follow a member's name. -/
def colon (t : Text) : Except Fault Text :=
  match skipSpace t with
  | [] => .error .unfinished
  | ':' :: rest => .ok rest
  | _ => .error .malformed

/-- The members of an object of strings.  Of members with one name the last counts. -/
def readAttributeEntries : (fuel : Nat) → (first : Bool) → Attributes → Text →
    Except Fault (Attributes × Text)
  | 0, _, _, _ => .error .malformed
  | fuel + 1, first, attributes, t => do
    match ← nextMember first t with
    | (none, after) => return (attributes, after)
    | (some name, after) =>
      let (value, after) ← readText (← colon after)
      readAttributeEntries fuel false (attributes.insert name value) after

/-- An object of strings. -/
def readAttributes (depth : Nat) (t : Text) : Except Fault (Attributes × Text) :=
  match skipSpace t with
  | '\x7b' :: rest =>
    if depth ≤ 1 then .error .malformed else readAttributeEntries (t.length + 1) true .empty rest
  | t => .error (wrongType t)

/-- A node whose members are being read: those read so far. -/
structure Draft where
  tag : Option (Option Text)
  attributes : Option Attributes
  text : Option (Option Text)
  data : Option (Option Text)
  children : Option (List NodeSpec)

namespace Draft

/-- No members have been read. -/
def blank : Draft := ⟨none, none, none, none, none⟩

/-- The node, where members that are missing are empty. -/
def finish (draft : Draft) : NodeSpec :=
  ⟨draft.tag.getD none, draft.attributes.getD .empty, draft.text.getD none, draft.data.getD none,
    draft.children.getD []⟩

end Draft

/-- The members that a node may have, in the order in which a list gives them. -/
inductive Member where
  | tag
  | attributes
  | text
  | data
  | children
deriving DecidableEq, Repr

namespace Member

/-- All members in order. -/
def all : List Member := [tag, attributes, text, data, children]

/-- The member of a name. -/
def ofName? (name : Text) : Option Member :=
  List.lookup name
    [("tag".toList, tag), ("attrs".toList, attributes), ("text".toList, text),
      ("data".toList, data), ("children".toList, children)]

/-- Whether a draft has the member already. -/
def isIn (draft : Draft) : Member → Bool
  | tag => draft.tag.isSome
  | attributes => draft.attributes.isSome
  | text => draft.text.isSome
  | data => draft.data.isSome
  | children => draft.children.isSome

end Member

mutual

/-- A list of nodes. -/
def readList : (fuel depth : Nat) → Text → Except Fault (List NodeSpec × Text)
  | 0, _, _ => .error .malformed
  | fuel + 1, depth, t =>
    match skipSpace t with
    | '[' :: rest =>
      if depth ≤ 1 then .error .malformed else readEntries fuel (depth - 1) true rest
    | t => .error (wrongType t)

/-- The nodes of a list from its next entry on, and the text after the list. -/
def readEntries : (fuel depth : Nat) → (first : Bool) → Text → Except Fault (List NodeSpec × Text)
  | 0, _, _, _ => .error .malformed
  | fuel + 1, depth, first, t => do
    match ← nextEntry first t with
    | none => return ([], ← closeList t)
    | some start =>
      let (node, after) ← readNode fuel depth start
      let (nodes, after) ← readEntries fuel depth false after
      return (node :: nodes, after)

/-- A node. -/
def readNode : (fuel depth : Nat) → Text → Except Fault (NodeSpec × Text)
  | 0, _, _ => .error .malformed
  | fuel + 1, depth, t =>
    match skipSpace t with
    | '[' :: rest =>
      if depth ≤ 1 then .error .malformed
      else do
        let (draft, after) ← readFields fuel (depth - 1) true Member.all .blank rest
        return (draft.finish, ← closeList after)
    | '\x7b' :: rest =>
      if depth ≤ 1 then .error .malformed
      else do
        let (draft, after) ← readMembers fuel (depth - 1) true .blank rest
        return (draft.finish, after)
    | t => .error (wrongType t)

/-- The values of the given members, as far as a list has entries for them. -/
def readFields : (fuel depth : Nat) → (first : Bool) → List Member → Draft → Text →
    Except Fault (Draft × Text)
  | 0, _, _, _, _, _ => .error .malformed
  | _, _, _, [], draft, t => .ok (draft, t)
  | fuel + 1, depth, first, member :: members, draft, t => do
    match ← nextEntry first t with
    | none => return (draft, t)
    | some start =>
      let (draft, after) ← readMember fuel depth draft member start
      readFields fuel depth false members draft after

/-- The members of an object from the next one on, and the text after the object. -/
def readMembers : (fuel depth : Nat) → (first : Bool) → Draft → Text → Except Fault (Draft × Text)
  | 0, _, _, _, _ => .error .malformed
  | fuel + 1, depth, first, draft, t => do
    match ← nextMember first t with
    | (none, after) => return (draft, after)
    | (some name, after) =>
      match Member.ofName? name with
      | none =>
        let after ← skipValue (← colon after)
        readMembers fuel depth false draft after
      | some member =>
        -- a second member of one name is refused before its colon is read
        if member.isIn draft then .error .mistyped
        else do
          let (draft, after) ← readMember fuel depth draft member (← colon after)
          readMembers fuel depth false draft after

/-- The value of one member. -/
def readMember : (fuel depth : Nat) → Draft → Member → Text → Except Fault (Draft × Text)
  | 0, _, _, _, _ => .error .malformed
  | _, _, draft, .tag, t =>
    (readOptional t).map fun (value, after) => ({ draft with tag := some value }, after)
  | _, depth, draft, .attributes, t =>
    (readAttributes depth t).map fun (value, after) =>
      ({ draft with attributes := some value }, after)
  | _, _, draft, .text, t =>
    (readOptional t).map fun (value, after) => ({ draft with text := some value }, after)
  | _, _, draft, .data, t =>
    (readOptional t).map fun (value, after) => ({ draft with data := some value }, after)
  | fuel + 1, depth, draft, .children, t =>
    (readList fuel depth t).map fun (value, after) => ({ draft with children := some value }, after)

end

/-- The nodes that a JSON text describes.  No more than four steps go by without a character being
read, which bounds the fuel. -/
def ofJson (t : Text) : Except Fault (List NodeSpec) := do
  let (nodes, after) ← readList (4 * t.length + 4) nesting t
  if (skipSpace after).isEmpty then return nodes else .error .malformed

end TreeQuery.NodeSpec
