import TaskWatch.Json.Reader

/-!
# Strings and keys in TOML

A basic string is in double quotes and knows escapes, a literal string is in single quotes and
knows none; either takes three quotes instead of one to run over several lines. The readers work on
a text whose line ends are single line feeds.
-/

namespace TaskWatch.Toml

/-- Space and tab. -/
def isSpace (c : Char) : Bool := c == ' ' || c == '\t'

def skipSpace (cs : List Char) : List Char := cs.dropWhile isSpace

/-- The characters that a comment or a string may hold as they are: all but control characters,
tab excepted. -/
def isPlain (c : Char) : Bool :=
  c == '\t' || (0x20 ≤ c.toNat && c.toNat ≠ 0x7F)

/-- The apostrophe, which quotes literal strings. -/
def apostrophe : Char := Char.ofNat 0x27

/-- A character by its number, which must not be a surrogate or past the last one. -/
def scalar? (digits : List Char) : Option Char := do
  let values ← digits.mapM Document.hexValue?
  let n := values.foldl (fun n d => 16 * n + d) 0
  if n < 0xD800 ∨ (0xDFFF < n ∧ n < 0x110000) then some (Char.ofNat n) else none

/-- The character of an escape, after its backslash, and what follows. -/
def readEscape? : List Char → Option (Char × List Char)
  | 'u' :: cs => if (cs.take 4).length = 4 then (scalar? (cs.take 4)).map (·, cs.drop 4) else none
  | 'U' :: cs => if (cs.take 8).length = 8 then (scalar? (cs.take 8)).map (·, cs.drop 8) else none
  | '/' :: _ => none
  | c :: cs => (Document.escaped? c).map (·, cs)
  | [] => none

/-- A basic string on one line, after its opening quote. -/
def readBasic? : Nat → List Char → Option (List Char × List Char)
  | _, '"' :: rest => some ([], rest)
  | fuel + 1, '\\' :: rest => do
    let (c, rest) ← readEscape? rest
    let (cs, rest) ← readBasic? fuel rest
    some (c :: cs, rest)
  | fuel + 1, c :: rest =>
    if isPlain c then (readBasic? fuel rest).map fun (cs, rest) => (c :: cs, rest) else none
  | _, _ => none

/-- A basic string over several lines, after its opening quotes and the line end behind them. Up
to two quotes may stand in front of the closing ones, and a backslash at the end of a line takes
away all blanks up to the next character. -/
def readBasicLines? : Nat → List Char → Option (List Char × List Char)
  | _, '"' :: '"' :: '"' :: '"' :: '"' :: rest => some (['"', '"'], rest)
  | _, '"' :: '"' :: '"' :: '"' :: rest => some (['"'], rest)
  | _, '"' :: '"' :: '"' :: rest => some ([], rest)
  | fuel + 1, '\\' :: rest =>
    match skipSpace rest with
    | '\n' :: next => readBasicLines? fuel (next.dropWhile fun c => isSpace c || c == '\n')
    | _ => do
      let (c, rest) ← readEscape? rest
      let (cs, rest) ← readBasicLines? fuel rest
      some (c :: cs, rest)
  | fuel + 1, c :: rest =>
    if isPlain c || c == '\n' then
      (readBasicLines? fuel rest).map fun (cs, rest) => (c :: cs, rest)
    else none
  | _, _ => none

/-- A literal string on one line, after its opening quote. -/
def readLiteral? : List Char → Option (List Char × List Char)
  | [] => none
  | c :: rest =>
    if c == apostrophe then some ([], rest)
    else if isPlain c then (readLiteral? rest).map fun (cs, rest) => (c :: cs, rest)
    else none

/-- A literal string over several lines, after its opening quotes and the line end behind them. -/
def readLiteralLines? : List Char → Option (List Char × List Char)
  | [] => none
  | c :: rest =>
    let quotes := (c :: rest).takeWhile (· == apostrophe)
    if 3 ≤ quotes.length then
      let inside := min quotes.length 5 - 3
      some (List.replicate inside apostrophe, (c :: rest).drop (inside + 3))
    else if isPlain c || c == '\n' then
      (readLiteralLines? rest).map fun (cs, rest) => (c :: cs, rest)
    else none

/-- The text without the line end at its start. -/
def dropLineEnd : List Char → List Char
  | '\n' :: cs => cs
  | cs => cs

/-- A string of any of the four kinds, when one starts here. -/
def readString? (cs : List Char) : Option (List Char × List Char) :=
  match cs with
  | '"' :: '"' :: '"' :: rest => readBasicLines? rest.length (dropLineEnd rest)
  | '"' :: rest => readBasic? rest.length rest
  | a :: b :: c :: rest =>
    if a = apostrophe ∧ b = apostrophe ∧ c = apostrophe then readLiteralLines? (dropLineEnd rest)
    else if a = apostrophe then readLiteral? (b :: c :: rest)
    else none
  | a :: rest => if a = apostrophe then readLiteral? rest else none
  | [] => none

/-! ## Keys -/

/-- The characters of a key without quotes. -/
def isBare (c : Char) : Bool :=
  c.isAlphanum || c == '_' || c == '-'

/-- One part of a key. -/
def readKeyPart? : List Char → Option (String × List Char)
  | '"' :: rest => (readBasic? rest.length rest).map fun (cs, rest) => (String.ofList cs, rest)
  | c :: rest =>
    if c = apostrophe then (readLiteral? rest).map fun (cs, rest) => (String.ofList cs, rest)
    else
      match (c :: rest).span isBare with
      | ([], _) => none
      | (cs, rest) => some (String.ofList cs, rest)
  | [] => none

/-- A key, with blanks around each of its parts. -/
def readKey? : Nat → List Char → Option (List String × List Char)
  | 0, _ => none
  | fuel + 1, cs => do
    let (part, rest) ← readKeyPart? (skipSpace cs)
    match skipSpace rest with
    | '.' :: rest =>
      let (parts, rest) ← readKey? fuel rest
      some (part :: parts, rest)
    | rest => some ([part], rest)

end TaskWatch.Toml
