import TaskWatch.Text.Numeral

/-!
# Spans of time

Time limits and delays are whole milliseconds. A span is written in its largest unit: seconds with
as many decimal places as needed, else milliseconds, and `0ns` when there is nothing to count.
-/

namespace TaskWatch

/-- A span of time. -/
structure Duration where
  millis : Nat
  deriving DecidableEq, Repr, Ord

namespace Duration

def seconds (n : Nat) : Duration := ⟨1000 * n⟩

def minutes (n : Nat) : Duration := seconds (60 * n)

/-- The shorter of two spans. -/
def min (a b : Duration) : Duration := ⟨Nat.min a.millis b.millis⟩

/-- The decimal places of a second, without zeros at the end. -/
def places (millis : Nat) : List Char :=
  ((Numeral.padded 3 millis).reverse.dropWhile (· == '0')).reverse

/-- The text of a span. -/
def text (d : Duration) : String :=
  if d.millis = 0 then "0ns"
  else if d.millis < 1000 then Numeral.text d.millis ++ "ms"
  else
    let rest := d.millis % 1000
    if rest = 0 then Numeral.text (d.millis / 1000) ++ "s"
    else Numeral.text (d.millis / 1000) ++ "." ++ String.ofList (places rest) ++ "s"

/-- The time left until a deadline, or the given span when there is no deadline. The deadline and the
moment are counted from one start; a deadline that has passed leaves nothing. -/
def untilDeadline (deadline : Option Duration) (now standard : Duration) : Duration :=
  match deadline with
  | some d => ⟨d.millis - now.millis⟩
  | none => standard

end Duration

end TaskWatch
