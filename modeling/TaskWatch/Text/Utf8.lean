/-!
# UTF-8

`encode` writes a text as octets, and `decodeLossy` reads any octets: each longest part that could
start a character and is not one becomes the replacement character U+FFFD, and reading goes on at
the octet that ruled it out.

A character of more than one octet is read with a `Pending` part: how many octets are still owed,
and the least and the greatest that the next one may be. The bounds are narrower than `80` to `BF`
after `E0`, `ED`, `F0` and `F4`, which keeps out overlong forms, surrogates and numbers past
U+10FFFF.
-/

namespace TaskWatch.Utf8

/-- The octets of one character. -/
def encodeChar (c : Char) : List UInt8 :=
  let n := c.toNat
  if n < 0x80 then [UInt8.ofNat n]
  else if n < 0x800 then [UInt8.ofNat (0xC0 + n / 64), UInt8.ofNat (0x80 + n % 64)]
  else if n < 0x10000 then
    [UInt8.ofNat (0xE0 + n / 4096), UInt8.ofNat (0x80 + n / 64 % 64), UInt8.ofNat (0x80 + n % 64)]
  else
    [UInt8.ofNat (0xF0 + n / 262144), UInt8.ofNat (0x80 + n / 4096 % 64),
      UInt8.ofNat (0x80 + n / 64 % 64), UInt8.ofNat (0x80 + n % 64)]

/-- The octets of a text. -/
def encode (s : String) : List UInt8 :=
  s.toList.flatMap encodeChar

/-- The part of a character read so far. -/
structure Pending where
  /-- How many octets are still to come. -/
  owed : Nat
  /-- The least octet that may come next. -/
  low : Nat
  /-- The greatest octet that may come next. -/
  high : Nat
  /-- The number that the octets so far spell. -/
  code : Nat

/-- What an octet is at the start of a character. -/
inductive Start where
  /-- A character of its own. -/
  | single (c : Char)
  /-- The first octet of several. -/
  | several (pending : Pending)
  /-- No character starts so. -/
  | invalid

/-- How an octet starts a character. -/
def start (octet : UInt8) : Start :=
  let b := octet.toNat
  if b < 0x80 then .single (Char.ofNat b)
  else if b < 0xC2 then .invalid
  else if b < 0xE0 then .several ⟨1, 0x80, 0xBF, b - 0xC0⟩
  else if b = 0xE0 then .several ⟨2, 0xA0, 0xBF, 0⟩
  else if b = 0xED then .several ⟨2, 0x80, 0x9F, 0xD⟩
  else if b < 0xF0 then .several ⟨2, 0x80, 0xBF, b - 0xE0⟩
  else if b = 0xF0 then .several ⟨3, 0x90, 0xBF, 0⟩
  else if b < 0xF4 then .several ⟨3, 0x80, 0xBF, b - 0xF0⟩
  else if b = 0xF4 then .several ⟨3, 0x80, 0x8F, 4⟩
  else .invalid

/-- The character that stands for a part that is not UTF-8. -/
def replacement : Char := Char.ofNat 0xFFFD

/-- The characters that an octet completes when it starts a character, and the part it opens. -/
def begin (octet : UInt8) : List Char × Option Pending :=
  match start octet with
  | .single c => ([c], none)
  | .several pending => ([], some pending)
  | .invalid => ([replacement], none)

/-- The characters that an octet completes, and the part that is pending after it. -/
def step (pending : Option Pending) (octet : UInt8) : List Char × Option Pending :=
  match pending with
  | none => begin octet
  | some p =>
    let b := octet.toNat
    if p.low ≤ b ∧ b ≤ p.high then
      let code := 64 * p.code + (b - 0x80)
      if p.owed ≤ 1 then ([Char.ofNat code], none)
      else ([], some ⟨p.owed - 1, 0x80, 0xBF, code⟩)
    else
      let (chars, next) := begin octet
      (replacement :: chars, next)

/-- The characters of the octets that follow a pending part. -/
def decodeFrom (pending : Option Pending) : List UInt8 → List Char
  | [] => if pending.isSome then [replacement] else []
  | octet :: rest =>
    let (chars, next) := step pending octet
    chars ++ decodeFrom next rest

/-- The text of any octets, with U+FFFD for each part that is not UTF-8. -/
def decodeLossy (octets : List UInt8) : String :=
  String.ofList (decodeFrom none octets)

/-- Whether the octets are UTF-8 from a pending part on. -/
def validFrom (pending : Option Pending) : List UInt8 → Bool
  | [] => pending.isNone
  | octet :: rest =>
    match pending with
    | none =>
      match start octet with
      | .single _ => validFrom none rest
      | .several p => validFrom (some p) rest
      | .invalid => false
    | some p =>
      if p.low ≤ octet.toNat ∧ octet.toNat ≤ p.high then validFrom (step pending octet).2 rest
      else false

/-- The text of octets that are UTF-8, and nothing for any others. -/
def decode? (octets : List UInt8) : Option String :=
  if validFrom none octets then some (decodeLossy octets) else none

end TaskWatch.Utf8
