import TaskWatch.Json.Reader

/-!
# Records

A record is read from an object, or from an array that holds its fields in the order of their
declaration. In an object, keys that name no field are passed over, whatever they hold, and a field
may stand only once; in an array, fields at the end may be missing, but there are no further items.
`Fields.ofDocument?` brings both forms to the named fields that are present, and the readers below
turn one field into its value: a field of the wrong type spoils the record, and a missing one has
the default of its reader.

A record is written as an object with its fields in declaration order (`Json.record`), from which
a field may be left out.
-/

namespace TaskWatch

/-- The fields of a record that are present. -/
structure Fields where
  entries : List (String × Document)

namespace Fields

/-- The member of an object that a field of the record is read from. -/
def named? (names : List String) : Option String × Document → Option (String × Document)
  | (some key, value) => if names.contains key then some (key, value) else none
  | (none, _) => none

/-- The fields of a record whose declaration lists `names`. -/
def ofDocument? (names : List String) : Document → Option Fields
  | .array items => if items.length ≤ names.length then some ⟨names.zip items⟩ else none
  | .object members =>
    let known := members.filterMap (named? names)
    if members.all (·.1.isSome) ∧ (known.map (·.1)).Nodup then some ⟨known⟩ else none
  | _ => none

def get? (fields : Fields) (name : String) : Option Document :=
  (fields.entries.find? (·.1 == name)).map (·.2)

end Fields

namespace Document

/-- A text. -/
def text? : Document → Option String
  | .string s => s
  | _ => none

/-- A truth value. -/
def flag? : Document → Option Bool
  | .bool b => some b
  | _ => none

/-- An integer of 64 bits with a sign. -/
def int? : Document → Option Int64
  | .number (some (.integer n)) =>
    if Int64.minValue.toInt ≤ n ∧ n ≤ Int64.maxValue.toInt then some (Int64.ofInt n) else none
  | _ => none

/-- The items of an array, each read by `read?`. -/
def items? {α : Type} (read? : Document → Option α) : Document → Option (List α)
  | .array items => items.mapM read?
  | _ => none

end Document

namespace Fields

/-- A field that has to be present. -/
def required {α : Type} (fields : Fields) (name : String) (read? : Document → Option α) :
    Option α := do
  read? (← fields.get? name)

/-- A field that has a default. -/
def withDefault {α : Type} (fields : Fields) (name : String) (fallback : α)
    (read? : Document → Option α) : Option α :=
  match fields.get? name with
  | none => some fallback
  | some d => read? d

/-- A text, empty when it is missing. -/
def text (fields : Fields) (name : String) : Option String :=
  fields.withDefault name "" Document.text?

/-- A truth value, false when it is missing. -/
def flag (fields : Fields) (name : String) : Option Bool :=
  fields.withDefault name false Document.flag?

/-- An integer, zero when it is missing. -/
def int (fields : Fields) (name : String) : Option Int64 :=
  fields.withDefault name 0 Document.int?

/-- A list, empty when it is missing. -/
def list {α : Type} (fields : Fields) (name : String) (read? : Document → Option α) :
    Option (List α) :=
  fields.withDefault name [] (Document.items? read?)

/-- A part that may be absent: missing, or written as `null`. -/
def optional {α : Type} (fields : Fields) (name : String) (read? : Document → Option α) :
    Option (Option α) :=
  match fields.get? name with
  | none => some none
  | some .null => some none
  | some d => (read? d).map some

end Fields

/-! ## Writing -/

namespace Json

/-- A member that is always written. -/
def member (key : String) (value : Json) : Option (String × Json) := some (key, value)

/-- An integer that is always written. -/
def intMember (key : String) (n : Int64) : Option (String × Json) := some (key, .int n.toInt)

/-- A text that is left out when it is empty. -/
def textMember (key text : String) : Option (String × Json) :=
  if text = "" then none else some (key, .string text)

/-- A list that is left out when it is empty. -/
def listMember (key : String) (items : List Json) : Option (String × Json) :=
  if items.isEmpty then none else some (key, .array items)

/-- A part that is left out when it is absent. -/
def partMember (key : String) (value : Option Json) : Option (String × Json) :=
  value.map (key, ·)

/-- The object of the members that are not left out. -/
def record (members : List (Option (String × Json))) : Json :=
  .object (members.filterMap id)

end Json

end TaskWatch
