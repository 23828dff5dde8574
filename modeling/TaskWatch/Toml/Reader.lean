import TaskWatch.Toml.Scalar
import TaskWatch.Toml.Table
import TaskWatch.Toml.Text

/-!
# Reading TOML

`Toml.ofText?` reads a whole document, version 1.0 of TOML, into the entries of its top table. A
byte order mark may stand in front. The document is a list of statements, one a line, that are read
first and then fold into one table.
-/

namespace TaskWatch.Toml

/-- The text with every carriage return and line feed made a line feed. -/
def joinLineEnds : List Char → List Char
  | '\r' :: '\n' :: cs => '\n' :: joinLineEnds cs
  | c :: cs => c :: joinLineEnds cs
  | [] => []

/-- What follows a comment; none when the comment holds a control character. -/
def skipComment? (cs : List Char) : Option (List Char) :=
  let rest := cs.dropWhile isPlain
  match rest with
  | [] => some []
  | '\n' :: _ => some rest
  | _ => none

/-- What follows the blanks, line ends and comments between the items of an array. -/
def skipGaps? : Nat → List Char → Option (List Char)
  | 0, cs => some cs
  | fuel + 1, cs =>
    match skipSpace cs with
    | '\n' :: rest => skipGaps? fuel rest
    | '#' :: rest => do skipGaps? fuel (← skipComment? rest)
    | rest => some rest

/-- An inline table with one more value. -/
def addInline (key : List String) (value : Value) (table : Table) : Option Table := do
  let last ← key.getLast?
  Table.addDotted value last key.dropLast true table

mutual

/-- A value, at most `depth` arrays and inline tables deep. -/
def readValue? : Nat → Nat → List Char → Option (Value × List Char)
  | 0, _, _ => none
  | fuel + 1, depth, cs =>
    match cs with
    | '[' :: rest =>
      match depth with
      | 0 => none
      | depth + 1 =>
        (readItems? fuel depth rest).map fun (items, rest) => (.array items, rest)
    | '{' :: rest =>
      match depth with
      | 0 => none
      | depth + 1 =>
        match skipSpace rest with
        | '}' :: rest => some (.table [], rest)
        | rest =>
          (readPairs? fuel depth [] rest).map fun (table, rest) =>
            (.table (finishEntries table), rest)
    | _ =>
      match readString? cs with
      | some (text, rest) => some (.string (String.ofList text), rest)
      | none => readScalar? cs

/-- The items of an array up to its closing bracket. -/
def readItems? : Nat → Nat → List Char → Option (List Value × List Char)
  | 0, _, _ => none
  | fuel + 1, depth, cs => do
    match ← skipGaps? cs.length cs with
    | ']' :: rest => some ([], rest)
    | start =>
      let (item, rest) ← readValue? fuel depth start
      match ← skipGaps? rest.length rest with
      | ']' :: rest => some ([item], rest)
      | ',' :: rest =>
        let (items, rest) ← readItems? fuel depth rest
        some (item :: items, rest)
      | _ => none

/-- The pairs of an inline table up to its closing brace; there is at least one. -/
def readPairs? : Nat → Nat → Table → List Char → Option (Table × List Char)
  | 0, _, _, _ => none
  | fuel + 1, depth, table, cs => do
    let (key, rest) ← readKey? cs.length cs
    if greatestDepth < key.length then none
    else
      match rest with
      | '=' :: rest =>
        let (value, rest) ← readValue? fuel depth (skipSpace rest)
        let table ← addInline key value table
        match skipSpace rest with
        | '}' :: rest => some (table, rest)
        | ',' :: rest => readPairs? fuel depth table rest
        | _ => none
      | _ => none

end

/-- One line of a document that is not empty. -/
inductive Statement where
  | pair (key : List String) (value : Value)
  | header (key : List String)
  | element (key : List String)

/-- The rest of a line: blanks and a comment. Gives the start of the next line. -/
def endLine? (cs : List Char) : Option (List Char) := do
  let rest ← match skipSpace cs with
    | '#' :: rest => skipComment? rest
    | rest => some rest
  match rest with
  | [] => some []
  | '\n' :: next => some next
  | _ => none

/-- A key that is not too long. -/
def readShortKey? (cs : List Char) : Option (List String × List Char) := do
  let (key, rest) ← readKey? cs.length cs
  if key.length ≤ greatestDepth then some (key, rest) else none

/-- A statement, and what follows it on its line. -/
def readStatement? (cs : List Char) : Option (Statement × List Char) :=
  match cs with
  | '[' :: '[' :: rest => do
    match ← readShortKey? rest with
    | (key, ']' :: ']' :: rest) => some (.element key, rest)
    | _ => none
  | '[' :: rest => do
    match ← readShortKey? rest with
    | (key, ']' :: rest) => some (.header key, rest)
    | _ => none
  | _ => do
    match ← readShortKey? cs with
    | (key, '=' :: rest) =>
      let start := skipSpace rest
      let (value, rest) ← readValue? (2 * start.length + 2) greatestDepth start
      some (.pair key value, rest)
    | _ => none

/-- The statements of a document. -/
def readStatements? : Nat → List Char → Option (List Statement)
  | 0, cs => if cs.isEmpty then some [] else none
  | fuel + 1, cs => do
    match ← skipGaps? cs.length cs with
    | [] => some []
    | start =>
      let (statement, rest) ← readStatement? start
      let next ← endLine? rest
      let statements ← readStatements? fuel next
      some (statement :: statements)

/-- A table under construction, and the header whose table the next pair belongs to. -/
structure Build where
  header : List String := []
  table : Table := []

/-- The effect of one statement. -/
def Build.step (b : Build) : Statement → Option Build
  | .pair key value => do
    let table ← Table.atPath (addInline key value) b.header b.table
    some { b with table := table }
  | .header key => do
    let last ← key.getLast?
    let table ← Table.atPath (Table.define last) key.dropLast b.table
    some ⟨key, table⟩
  | .element key => do
    let last ← key.getLast?
    let table ← Table.atPath (Table.addElement last) key.dropLast b.table
    some ⟨key, table⟩

/-- The text without a byte order mark in front. -/
def dropByteOrderMark : List Char → List Char
  | c :: cs => if c.toNat = 0xFEFF then cs else c :: cs
  | [] => []

/-- The entries of the top table of a document. -/
def ofText? (s : String) : Option Entries := do
  let cs := joinLineEnds (dropByteOrderMark s.toList)
  let statements ← readStatements? (cs.length + 1) cs
  let build ← statements.foldlM Build.step {}
  some (finishEntries build.table)

end TaskWatch.Toml
