import TaskWatch.Line.Basic

/-!
# Reading lines from chunks

Octets come in chunks whose borders mean nothing. A `LineReader` holds the chunks that have come
and gives one line at a time. While a line is read, its octets are gathered in an `Unfinished` line,
which never holds more than the limit: as soon as a chunk brings too many, all of them are forgotten
and the rest of the line is passed over.

* `next`: one line, or the end, or the need for more chunks;
* `lines`: all lines of a reader that gets no more chunks.
-/

namespace TaskWatch

/-- The octets of a line so far. -/
structure Unfinished where
  held : List UInt8 := []
  /-- Whether the line has more octets than the limit allows. -/
  overflowed : Bool := false
  deriving DecidableEq, Repr

namespace Unfinished

/-- The line with more octets. -/
def add (limit : Nat) (line : Unfinished) (octets : List UInt8) : Unfinished :=
  if line.overflowed then line
  else if limit < line.held.length + octets.length then ⟨[], true⟩
  else ⟨line.held ++ octets, false⟩

/-- The line when its newline has come. -/
def finish (line : Unfinished) : Line :=
  if line.overflowed then .tooLong else .text (Line.textOf line.held)

/-- The line when the input ends; none if there is nothing in it. -/
def finishAtEnd (line : Unfinished) : Option Line :=
  if line.overflowed then some .tooLong
  else if line.held.isEmpty then none
  else some (.text (Line.textOf line.held))

end Unfinished

/-- A source of lines. -/
structure LineReader where
  /-- How many octets a line may have, without its newline. -/
  limit : Nat
  /-- What has come and is not read yet. -/
  chunks : List (List UInt8) := []
  /-- Whether nothing more can come. -/
  ended : Bool := false
  deriving DecidableEq, Repr

/-- What reading a line gives. -/
inductive LineRead where
  | line (l : Line)
  /-- The input has ended. -/
  | finished
  /-- The line is not complete, and more may come. -/
  | waiting
  deriving DecidableEq, Repr

namespace LineReader

/-- Goes through the chunks up to the first newline: the line and the chunks after it, or what there
is of the line when there is no newline. -/
def gather (limit : Nat) (line : Unfinished) :
    List (List UInt8) → Unfinished ⊕ (Line × List (List UInt8))
  | [] => .inl line
  | chunk :: rest =>
    match Line.cut chunk with
    | (before, some after) => .inr ((line.add limit before).finish, after :: rest)
    | (before, none) => gather limit (line.add limit before) rest

/-- Reads one line. A reader that has to wait keeps all it has. -/
def next (r : LineReader) : LineRead × LineReader :=
  match gather r.limit {} r.chunks with
  | .inr (line, chunks) => (.line line, { r with chunks := chunks })
  | .inl line =>
    if r.ended then
      match line.finishAtEnd with
      | some line => (.line line, { r with chunks := [] })
      | none => (.finished, { r with chunks := [] })
    else (.waiting, r)

/-- The number of octets that are not read yet. -/
def size (r : LineReader) : Nat := r.chunks.flatten.length

theorem gather_size {limit : Nat} {line : Unfinished} {chunks : List (List UInt8)} {l : Line}
    {rest : List (List UInt8)} (h : gather limit line chunks = .inr (l, rest)) :
    rest.flatten.length < chunks.flatten.length := by
  induction chunks generalizing line with
  | nil => simp [gather] at h
  | cons chunk chunks ih =>
    rw [gather] at h
    split at h
    · next before after hcut =>
      obtain ⟨rfl, -⟩ := Line.cut_eq_some_iff.1 hcut
      obtain ⟨-, rfl⟩ := Prod.mk.inj (Sum.inr.inj h)
      simp only [List.flatten_cons, List.length_append, List.length_cons]
      omega
    · have := ih h
      simp only [List.flatten_cons, List.length_append]
      omega

/-- Chunks without octets leave nothing gathered. -/
theorem gather_of_flatten_eq_nil {limit : Nat} {chunks : List (List UInt8)}
    (h : chunks.flatten = []) : gather limit {} chunks = .inl {} := by
  induction chunks with
  | nil => rfl
  | cons chunk chunks ih =>
    obtain ⟨rfl, hrest⟩ := List.append_eq_nil_iff.1 h
    simpa [gather, Line.cut, Unfinished.add] using ih hrest

/-- A line takes octets with it. -/
theorem next_size {r s : LineReader} {l : Line} (h : r.next = (.line l, s)) :
    s.size < r.size := by
  unfold next at h
  split at h
  · next line chunks hg =>
    obtain ⟨-, rfl⟩ := Prod.mk.inj h
    exact gather_size hg
  · next line hg =>
    split at h
    · split at h
      · next hfin =>
        obtain ⟨-, rfl⟩ := Prod.mk.inj h
        by_cases hr : r.chunks.flatten = []
        · rw [gather_of_flatten_eq_nil hr] at hg
          obtain rfl := Sum.inl.inj hg
          simp [Unfinished.finishAtEnd] at hfin
        · simpa [size] using List.length_pos_iff.2 hr
      · simp at h
    · simp at h

/-- The lines that can be read until the input ends or the reader has to wait. -/
def lines (r : LineReader) : List Line :=
  match h : r.next with
  | (.line l, s) =>
    have : s.size < r.size := next_size h
    l :: lines s
  | (.finished, _) | (.waiting, _) => []
  termination_by r.size

end LineReader

end TaskWatch
