import TaskWatch.Json.Number

/-!
# JSON values

A value that is kept is a `Json`. Its objects are lists of members: in a message they stand in the
order of the message's fields, and in an object that was read they are sorted by key, each key
once (`Json.insert`). Texts are ordered by code points, which is the order of their UTF-8 octets.
-/

namespace TaskWatch

/-- A JSON value. -/
inductive Json where
  | null
  | bool (value : Bool)
  | number (value : Number)
  | string (text : String)
  | array (items : List Json)
  | object (members : List (String × Json))

/-- The members of an object. -/
abbrev Members := List (String × Json)

namespace Json

/-- The value of a key. -/
def get? (members : Members) (key : String) : Option Json :=
  (members.find? (·.1 == key)).map (·.2)

/-- Sorted members with one more, unless its key is there already. -/
def insertNew (key : String) (value : Json) : Members → Members
  | [] => [(key, value)]
  | (k, v) :: rest =>
    if key < k then (key, value) :: (k, v) :: rest
    else if key == k then (k, v) :: rest
    else (k, v) :: insertNew key value rest

/-- The object with the given members, sorted; the last one of each key counts. -/
def sorted (members : Members) : Json :=
  .object (members.foldr (fun (key, value) rest => insertNew key value rest) [])

/-- The members of an object value. -/
def members? : Json → Option Members
  | .object members => some members
  | _ => none

/-- An integer as a value. -/
def int (n : Int) : Json := .number (.integer n)

/-! ## Text -/

/-- The digit of base sixteen for a number below sixteen. -/
def hexDigit (n : Nat) : Char :=
  if n < 10 then Char.ofNat (0x30 + n) else Char.ofNat (0x57 + n)

/-- How a character stands inside a quoted text. -/
def escape (c : Char) : List Char :=
  if c = '"' then ['\\', '"']
  else if c = '\\' then ['\\', '\\']
  else if c.toNat = 8 then ['\\', 'b']
  else if c.toNat = 9 then ['\\', 't']
  else if c.toNat = 10 then ['\\', 'n']
  else if c.toNat = 12 then ['\\', 'f']
  else if c.toNat = 13 then ['\\', 'r']
  else if c.toNat < 32 then ['\\', 'u', '0', '0', hexDigit (c.toNat / 16), hexDigit (c.toNat % 16)]
  else [c]

/-- A text in quotes. -/
def quote (s : String) : List Char :=
  '"' :: s.toList.flatMap escape ++ ['"']

mutual

/-- The characters of a value, without any blank between its parts. -/
def chars : Json → List Char
  | .null => ['n', 'u', 'l', 'l']
  | .bool true => ['t', 'r', 'u', 'e']
  | .bool false => ['f', 'a', 'l', 's', 'e']
  | .number n => n.text.toList
  | .string s => quote s
  | .array items => '[' :: itemChars items ++ [']']
  | .object members => '{' :: memberChars members ++ ['}']

/-- The characters of items, with commas between them. -/
def itemChars : List Json → List Char
  | [] => []
  | [item] => item.chars
  | item :: rest => item.chars ++ ',' :: itemChars rest

/-- The characters of members, with commas between them. -/
def memberChars : List (String × Json) → List Char
  | [] => []
  | [(key, value)] => quote key ++ ':' :: value.chars
  | (key, value) :: rest => quote key ++ ':' :: value.chars ++ ',' :: memberChars rest

end

/-- The text of a value. -/
def text (value : Json) : String :=
  String.ofList value.chars

end Json

end TaskWatch
