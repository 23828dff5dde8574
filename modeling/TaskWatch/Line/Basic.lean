import TaskWatch.Text.Utf8

/-!
# Lines of octets

Messages are lines. `Line.pieces` cuts octets at the newlines; a last piece without a newline is a
line if there is something in it. A piece with more octets than a limit allows is refused, and any
other is read as text, without a carriage return at its end (`Line.ofPiece`).

* `pieces_append_newline`: octets without a newline, and then a newline, are the first piece;
* `cut_eq_some_iff`: what is cut off is what stands before the first newline.
-/

namespace TaskWatch

/-- A line that was read. -/
inductive Line where
  | text (s : String)
  /-- The line has more octets than the limit allows. -/
  | tooLong
  deriving DecidableEq, Repr

namespace Line

/-- The octet that ends a line. -/
def newline : UInt8 := 0x0A

/-- The octet that may stand before the newline. -/
def carriageReturn : UInt8 := 0x0D

/-- The octets without a carriage return at their end. -/
def dropReturn (octets : List UInt8) : List UInt8 :=
  if octets.getLast? = some carriageReturn then octets.dropLast else octets

/-- The text of a piece. -/
def textOf (octets : List UInt8) : String := Utf8.decodeLossy (dropReturn octets)

/-- The line that a piece is under a limit. -/
def ofPiece (limit : Nat) (octets : List UInt8) : Line :=
  if limit < octets.length then .tooLong else .text (textOf octets)

/-! ## Pieces -/

/-- The pieces that newlines end, and the last one if there is something in it. -/
def pieces : List UInt8 → List (List UInt8)
  | [] => []
  | b :: rest =>
    if b = newline then [] :: pieces rest
    else match pieces rest with
      | [] => [[b]]
      | first :: later => (b :: first) :: later

theorem pieces_append_newline {piece : List UInt8} (rest : List UInt8) (h : newline ∉ piece) :
    pieces (piece ++ newline :: rest) = piece :: pieces rest := by
  induction piece with
  | nil => simp [pieces]
  | cons b piece ih =>
    have hb : b ≠ newline := fun e => h (by simp [e])
    simp [pieces, hb, ih (fun m => h (by simp [m]))]

theorem pieces_of_notMem {piece : List UInt8} (h : newline ∉ piece) (hne : piece ≠ []) :
    pieces piece = [piece] := by
  induction piece with
  | nil => exact absurd rfl hne
  | cons b piece ih =>
    have hb : b ≠ newline := fun e => h (by simp [e])
    cases piece with
    | nil => simp [pieces, hb]
    | cons c piece =>
      rw [pieces, ih (fun m => h (by simp [m])) (by simp)]
      simp [hb]

/-! ## Cutting -/

/-- The octets before the first newline, and what follows it if there is one. -/
def cut : List UInt8 → List UInt8 × Option (List UInt8)
  | [] => ([], none)
  | b :: rest =>
    if b = newline then ([], some rest) else (b :: (cut rest).1, (cut rest).2)

theorem cut_eq_some_iff {octets before after : List UInt8} :
    cut octets = (before, some after) ↔
      octets = before ++ newline :: after ∧ newline ∉ before := by
  induction octets generalizing before with
  | nil => simp [cut]
  | cons b rest ih =>
    by_cases hb : b = newline
    · subst hb
      cases before with
      | nil => simp [cut]
      | cons c before =>
        simp only [cut, if_true, Prod.mk.injEq, List.cons_append, List.cons.injEq]
        constructor
        · simp
        · rintro ⟨⟨rfl, -⟩, h⟩
          simp at h
    · cases before with
      | nil => simp [cut, hb]
      | cons c before =>
        have := @ih before
        simp only [cut, hb, if_false, Prod.mk.injEq, List.cons.injEq, List.cons_append,
          List.mem_cons, not_or] at this ⊢
        constructor
        · rintro ⟨⟨rfl, h⟩, h'⟩
          obtain ⟨e, m⟩ := this.1 (Prod.ext h h')
          exact ⟨⟨rfl, e⟩, fun e => hb e.symm, m⟩
        · rintro ⟨⟨rfl, e⟩, -, m⟩
          have := this.2 ⟨e, m⟩
          exact ⟨⟨rfl, congrArg Prod.fst this⟩, congrArg Prod.snd this⟩

theorem cut_eq_none_iff {octets before : List UInt8} :
    cut octets = (before, none) ↔ before = octets ∧ newline ∉ octets := by
  induction octets generalizing before with
  | nil => simp [cut, eq_comm]
  | cons b rest ih =>
    by_cases hb : b = newline
    · simp [cut, hb]
    · cases before with
      | nil => simp [cut, hb]
      | cons c before =>
        have := @ih before
        simp only [cut, hb, if_false, Prod.mk.injEq, List.cons.injEq, List.mem_cons,
          not_or] at this ⊢
        constructor
        · rintro ⟨⟨rfl, h⟩, h'⟩
          obtain ⟨e, m⟩ := this.1 (Prod.ext h h')
          exact ⟨⟨rfl, e⟩, fun e => hb e.symm, m⟩
        · rintro ⟨⟨rfl, e⟩, -, m⟩
          have := this.2 ⟨e, m⟩
          exact ⟨⟨rfl, congrArg Prod.fst this⟩, congrArg Prod.snd this⟩

end Line

end TaskWatch
