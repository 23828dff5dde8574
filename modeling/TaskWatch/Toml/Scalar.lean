import TaskWatch.Binary64
import TaskWatch.Instant
import TaskWatch.Json.Reader
import TaskWatch.Toml.Basic

/-!
# Numbers, truth values and dates in TOML

A scalar without quotes is one word of letters, digits and the signs of numbers and times; only
between a date and a time may one space stand instead of a `T`. Integers have to fit in 64 bits, and
a float above zero must not be past the greatest one.
-/

namespace TaskWatch.Toml

/-- The characters of a scalar without quotes. -/
def isWordChar (c : Char) : Bool :=
  c.isAlphanum || c == '+' || c == '-' || c == '_' || c == '.' || c == ':'

/-- A digit and the digits after it, with single underscores between them. -/
def readRun? (isDigit : Char → Bool) : List Char → Option (List Char × List Char)
  | [] => none
  | c :: rest => if isDigit c then some (more c rest) else none
where
  /-- The run that goes on after the digit `c`. -/
  more (c : Char) : List Char → List Char × List Char
    | '_' :: d :: rest =>
      if isDigit d then
        let (ds, rest) := more d rest
        (c :: ds, rest)
      else ([c], '_' :: d :: rest)
    | d :: rest =>
      if isDigit d then
        let (ds, rest) := more d rest
        (c :: ds, rest)
      else ([c], d :: rest)
    | [] => ([c], [])

/-- The sign in front of a number, and whether there is one. -/
def readSign : List Char → Bool × Bool × List Char
  | '+' :: cs => (true, false, cs)
  | '-' :: cs => (true, true, cs)
  | cs => (false, false, cs)

/-- An integer in a base other than ten. -/
def based? (base : Nat) (isDigit : Char → Bool) (cs : List Char) : Option Value := do
  let (ds, rest) ← readRun? isDigit cs
  if !rest.isEmpty then none
  else
    let values ← ds.mapM Document.hexValue?
    let n := values.foldl (fun n d => base * n + d) 0
    if n < Nat.pow 2 63 then some (.integer n) else none

/-- Whether the decimal `digits · 10 ^ exponent` is past the greatest float. -/
def overflows (digits : List Char) (exponent : Int) : Bool :=
  let significant := digits.dropWhile (· == '0')
  let size := significant.length + exponent
  if significant.isEmpty || size < -400 then false
  else if 310 < size then true
  else
    let n := Numeral.value significant
    let magnitude :=
      if exponent < 0 then Magnitude.ofRatio n (Nat.pow 10 exponent.natAbs)
      else Magnitude.ofRatio (n * Nat.pow 10 exponent.toNat) 1
    magnitude.isNone

/-- The exponent of a float up to the end of the word. -/
def exponent? : List Char → Option Int
  | [] => some 0
  | c :: cs =>
    if c = 'e' ∨ c = 'E' then do
      let (_, negative, cs) := readSign cs
      let (ds, rest) ← readRun? Numeral.isDigit cs
      if rest.isEmpty then
        let n : Int := Numeral.value ds
        some (if negative then -n else n)
      else none
    else none

/-- A decimal number. -/
def decimal? (word : List Char) : Option Value := do
  let (_, negative, cs) := readSign word
  let (whole, rest) ← readRun? Numeral.isDigit cs
  if whole.head? = some '0' ∧ whole.length ≠ 1 then none
  else
    let float (fraction rest : List Char) : Option Value := do
      let e ← exponent? rest
      if !negative && overflows (whole ++ fraction) (e - fraction.length) then none
      else some .float
    match rest with
    | [] =>
      let n := Numeral.value whole
      if negative then (if n ≤ Nat.pow 2 63 then some (.integer (-n)) else none)
      else if n < Nat.pow 2 63 then some (.integer n) else none
    | '.' :: rest =>
      let (fraction, rest) ← readRun? Numeral.isDigit rest
      float fraction rest
    | rest => float [] rest

/-- A number. -/
def number? : List Char → Option Value
  | '0' :: 'x' :: cs => based? 16 (fun c => (Document.hexValue? c).isSome) cs
  | '0' :: 'o' :: cs => based? 8 (fun c => '0' ≤ c && c ≤ '7') cs
  | '0' :: 'b' :: cs => based? 2 (fun c => c == '0' || c == '1') cs
  | word =>
    let (_, _, rest) := readSign word
    if rest = ['i', 'n', 'f'] ∨ rest = ['n', 'a', 'n'] then some .float else decimal? word

/-- A date, and what follows it. -/
def readDate? (cs : List Char) : Option (List Char) := do
  let (year, cs) ← Instant.readDigits? 4 cs
  let cs ← Instant.expect? '-' cs
  let (month, cs) ← Instant.readDigits? 2 cs
  let cs ← Instant.expect? '-' cs
  let (day, cs) ← Instant.readDigits? 2 cs
  if (Date.mk year month day).isValid then some cs else none

/-- A time of day, and what follows it. -/
def readTime? (cs : List Char) : Option (List Char) := do
  let (hour, cs) ← Instant.readDigits? 2 cs
  let cs ← Instant.expect? ':' cs
  let (minute, cs) ← Instant.readDigits? 2 cs
  let cs ← Instant.expect? ':' cs
  let (second, cs) ← Instant.readDigits? 2 cs
  let (_, cs) ← Instant.readNanos? cs
  if hour ≤ 23 ∧ minute ≤ 59 ∧ second ≤ 60 then some cs else none

/-- Whether a word is a time of day, with an offset or without. -/
def isTime (word : List Char) : Bool :=
  match readTime? word with
  | some [] => true
  | some rest => (Instant.readOffset? rest).isSome
  | none => false

/-- Whether a word is a time of day without an offset. -/
def isLocalTime (word : List Char) : Bool :=
  readTime? word == some []

/-- A scalar without quotes, and what follows it. -/
def readScalar? (cs : List Char) : Option (Value × List Char) :=
  let (word, rest) := cs.span isWordChar
  match readDate? word with
  | some [] =>
    match rest with
    | ' ' :: next =>
      let (time, after) := next.span isWordChar
      if isTime time then some (.date, after) else some (.date, rest)
    | _ => some (.date, rest)
  | some (c :: time) =>
    if (c = 'T' ∨ c = 't') ∧ isTime time then some (.date, rest) else none
  | none =>
    if word = ['t', 'r', 'u', 'e'] then some (.boolean true, rest)
    else if word = ['f', 'a', 'l', 's', 'e'] then some (.boolean false, rest)
    else if isLocalTime word then some (.date, rest)
    else (number? word).map (·, rest)

end TaskWatch.Toml
