import TaskWatch.Calendar
import TaskWatch.Text.Blank
import TaskWatch.Text.Numeral

/-!
# Instants

An instant is a second of Unix time and a number of nanoseconds in it. A leap second has the Unix
time of the second before it, and nanoseconds from `10 ^ 9` on; so instants in order of time are
ordered by their seconds first and then by their nanoseconds. The zero instant, the start of Unix
time, stands for a time that is not known.

* `Instant.text` writes an instant in UTC with nine decimal places, and the zero instant as the
  empty text;
* `Instant.ofText?` reads RFC 3339 with any offset, and a blank text as the zero instant.
-/

namespace TaskWatch

/-- A moment in time. -/
structure Instant where
  seconds : Int
  nanos : Nat
  deriving DecidableEq, Repr

namespace Instant

/-- The start of Unix time, which stands for an unknown time. -/
def zero : Instant := ⟨0, 0⟩

def isZero (t : Instant) : Bool := t = zero

/-- How two instants are ordered. -/
def compare (a b : Instant) : Ordering :=
  (Ord.compare a.seconds b.seconds).then (Ord.compare a.nanos b.nanos)

def secondsPerDay : Int := 86400

def nanosPerSecond : Nat := 1000000000

/-! ## Writing -/

/-- A year has four digits; outside 0 to 9999 it has a sign and at least four digits. -/
def yearChars (year : Int) : List Char :=
  if 0 ≤ year ∧ year ≤ 9999 then Numeral.padded 4 year.toNat
  else (if year < 0 then '-' else '+') :: Numeral.padded 4 year.natAbs

/-- The date and time of day in UTC, without the decimal places and the closing `Z`. -/
def secondChars (t : Instant) : List Char :=
  let date := Date.ofDays (t.seconds / secondsPerDay)
  let second := (t.seconds % secondsPerDay).toNat
  let leap := t.nanos / nanosPerSecond
  yearChars date.year ++ '-' :: Numeral.padded 2 date.month ++ '-' :: Numeral.padded 2 date.day ++
    'T' :: Numeral.padded 2 (second / 3600) ++ ':' :: Numeral.padded 2 (second / 60 % 60) ++
    ':' :: Numeral.padded 2 (second % 60 + leap)

/-- The text of an instant to the second. -/
def secondText (t : Instant) : String :=
  String.ofList (secondChars t ++ ['Z'])

/-- The characters of an instant to the nanosecond. -/
def chars (t : Instant) : List Char :=
  secondChars t ++ '.' :: Numeral.padded 9 (t.nanos % nanosPerSecond) ++ ['Z']

/-- The text of an instant; the zero instant has the empty text. -/
def text (t : Instant) : String :=
  if t.isZero then "" else String.ofList (chars t)

/-! ## Reading -/

/-- A number of exactly `count` digits. -/
def readDigits? (count : Nat) (cs : List Char) : Option (Nat × List Char) :=
  let ds := cs.take count
  if ds.length = count ∧ ds.all Numeral.isDigit then some (Numeral.value ds, cs.drop count) else none

/-- The rest after a character that has to stand here. -/
def expect? (c : Char) : List Char → Option (List Char)
  | d :: rest => if d = c then some rest else none
  | [] => none

/-- The rest after the mark between date and time. -/
def readSeparator? : List Char → Option (List Char)
  | c :: rest => if c = 'T' ∨ c = 't' ∨ c = ' ' then some rest else none
  | [] => none

/-- The nanoseconds behind a point, when there is one; digits past the ninth do not count. -/
def readNanos? : List Char → Option (Nat × List Char)
  | '.' :: cs =>
    match cs.span Numeral.isDigit with
    | ([], _) => none
    | (ds, rest) =>
      let kept := ds.take 9
      some (Numeral.value kept * Nat.pow 10 (9 - kept.length), rest)
  | cs => some (0, cs)

/-- The sign of an offset; the minus sign of typography is one too. -/
def offsetSign? (c : Char) : Option Int :=
  if c = '+' then some 1
  else if c = '-' ∨ c = Char.ofNat 0x2212 then some (-1)
  else none

/-- The offset from UTC in seconds, up to the end of the text. -/
def readOffset? : List Char → Option Int
  | [] => none
  | c :: cs =>
    if c = 'Z' ∨ c = 'z' then (if cs.isEmpty then some 0 else none)
    else do
      let sign ← offsetSign? c
      let (hours, cs) ← readDigits? 2 cs
      let cs ← expect? ':' cs
      let (minutes, cs) ← readDigits? 2 cs
      if hours ≤ 23 ∧ minutes ≤ 59 ∧ cs.isEmpty then some (sign * (3600 * hours + 60 * minutes))
      else none

/-- The instant that the characters of an RFC 3339 text name. The second 60 of any minute is a
leap second. -/
def ofChars? (cs : List Char) : Option Instant := do
  let (year, cs) ← readDigits? 4 cs
  let cs ← expect? '-' cs
  let (month, cs) ← readDigits? 2 cs
  let cs ← expect? '-' cs
  let (day, cs) ← readDigits? 2 cs
  let cs ← readSeparator? cs
  let (hour, cs) ← readDigits? 2 cs
  let cs ← expect? ':' cs
  let (minute, cs) ← readDigits? 2 cs
  let cs ← expect? ':' cs
  let (second, cs) ← readDigits? 2 cs
  let (nanos, cs) ← readNanos? cs
  let offset ← readOffset? cs
  let date : Date := ⟨year, month, day⟩
  if date.isValid ∧ hour ≤ 23 ∧ minute ≤ 59 ∧ second ≤ 60 then
    let leap := second / 60
    let inDay : Int := 3600 * hour + 60 * minute + (second - leap : Nat)
    some ⟨secondsPerDay * date.toDays + inDay - offset, nanos + nanosPerSecond * leap⟩
  else none

/-- The instant of a text, read up to the blanks around it. -/
def ofText? (s : String) : Option Instant :=
  if Text.isBlank s then some zero else ofChars? (Text.trimChars s.toList)

end Instant

end TaskWatch
