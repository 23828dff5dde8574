import TaskWatch.Json.Basic

/-!
# What a JSON text says

A `Document` is the tree of a JSON text before anyone asks for its values. Its objects hold their
members in the order of the text, with repeated keys, and two kinds of leaf may be *unusable*: a
string with half of a surrogate pair, and a number past the greatest one. A reader that skips a
part of a document does not mind them; `keep?` does, and it also refuses a tree that is nested too
deep. Of members with the same key the last one counts.
-/

namespace TaskWatch

/-- The tree of a JSON text. An unusable string, key or number is `none`. -/
inductive Document where
  | null
  | bool (value : Bool)
  | number (value : Option Number)
  | string (text : Option String)
  | array (items : List Document)
  | object (members : List (Option String × Document))

namespace Document

/-- How deep arrays and objects may be nested in a value that is kept. -/
def greatestDepth : Nat := 127

mutual

/-- The value of a document that is nested at most `levels` deep. -/
def keep? : Document → Nat → Option Json
  | .null, _ => some .null
  | .bool b, _ => some (.bool b)
  | .number n, _ => n.map .number
  | .string s, _ => s.map .string
  | .array _, 0 => none
  | .array items, levels + 1 => (keepItems? items levels).map .array
  | .object _, 0 => none
  | .object members, levels + 1 => (keepMembers? members levels).map .object
  termination_by structural d => d

/-- The values of the items of an array. -/
def keepItems? : List Document → Nat → Option (List Json)
  | [], _ => some []
  | item :: rest, levels =>
    match item.keep? levels, keepItems? rest levels with
    | some value, some values => some (value :: values)
    | _, _ => none
  termination_by structural ds => ds

/-- The sorted members of an object, the last one of each key. -/
def keepMembers? : List (Option String × Document) → Nat → Option Members
  | [], _ => some []
  | (key, item) :: rest, levels =>
    match key, item.keep? levels, keepMembers? rest levels with
    | some key, some value, some members => some (Json.insertNew key value members)
    | _, _, _ => none
  termination_by structural ds => ds

end

mutual

/-- The document that a value is the reading of. -/
def ofJson : Json → Document
  | .null => .null
  | .bool b => .bool b
  | .number n => .number (some n)
  | .string s => .string (some s)
  | .array items => .array (ofItems items)
  | .object members => .object (ofMembers members)

/-- The documents of the items of an array. -/
def ofItems : List Json → List Document
  | [] => []
  | item :: rest => ofJson item :: ofItems rest

/-- The documents of the members of an object. -/
def ofMembers : List (String × Json) → List (Option String × Document)
  | [] => []
  | (key, value) :: rest => (some key, ofJson value) :: ofMembers rest

end

end Document

end TaskWatch
