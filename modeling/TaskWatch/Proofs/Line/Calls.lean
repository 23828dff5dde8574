import TaskWatch.Proofs.Line.Reader

/-!
# A reader, call by call

A reader is called again and again, and also after its input has ended. What it reads then is what
cutting the whole input at its newlines gives (`Line.split`), and finding the end from then on;
and at no moment of a call is more of a line held than the limit allows.

* `Line.pieces_eq_split`: the pieces of octets are the parts between their newlines;
* `LineReader.Holds.length_le`: what is held at a moment of a call is not longer than the limit;
* `LineReader.reads_exact`: the calls of an ended reader, and what is held while they run.
-/

namespace TaskWatch

/-! ## The parts between newlines -/

namespace Line

/-- Parts without the last one, if that is empty. -/
def dropEmptyEnd (parts : List (List UInt8)) : List (List UInt8) :=
  if parts.getLast? = some [] then parts.dropLast else parts

/-- The parts between newlines; an empty one after the last newline does not count. -/
def split (octets : List UInt8) : List (List UInt8) :=
  dropEmptyEnd (octets.splitOn newline)

theorem dropEmptyEnd_cons (part : List UInt8) {parts : List (List UInt8)} (hne : parts ≠ []) :
    dropEmptyEnd (part :: parts) = part :: dropEmptyEnd parts := by
  obtain ⟨first, later, rfl⟩ := List.exists_cons_of_ne_nil hne
  unfold dropEmptyEnd
  rw [List.getLast?_cons_cons, List.dropLast_cons_cons]
  split <;> rfl

theorem splitOn_ne_nil (octets : List UInt8) : octets.splitOn newline ≠ [] :=
  List.splitOnP_ne_nil _ octets

theorem split_newline (rest : List UInt8) : split (newline :: rest) = [] :: split rest := by
  have hparts : (newline :: rest).splitOn newline = [] :: rest.splitOn newline := by
    rw [List.splitOn, List.splitOnP_cons_eq_if_modifyHead, if_pos (beq_self_eq_true newline)]
    rfl
  rw [split, hparts, dropEmptyEnd_cons [] (splitOn_ne_nil rest), split]

theorem split_cons {b : UInt8} (hb : b ≠ newline) (rest : List UInt8) :
    split (b :: rest) = if split rest = [] then [[b]] else (split rest).modifyHead (b :: ·) := by
  have hparts : (b :: rest).splitOn newline = (rest.splitOn newline).modifyHead (b :: ·) := by
    rw [List.splitOn, List.splitOnP_cons_eq_if_modifyHead, if_neg (by simpa using hb)]
    rfl
  rw [split, split, hparts]
  obtain ⟨first, later, hrest⟩ := List.exists_cons_of_ne_nil (splitOn_ne_nil rest)
  rw [hrest, List.modifyHead_cons]
  cases later with
  | nil =>
    -- the only part is dropped when it is empty, and never once `b` is in it
    cases first <;> simp [dropEmptyEnd]
  | cons second later =>
    rw [dropEmptyEnd_cons _ (List.cons_ne_nil second later),
      dropEmptyEnd_cons _ (List.cons_ne_nil second later), if_neg (List.cons_ne_nil _ _)]
    rfl

/-- The pieces of octets are the parts between their newlines. -/
theorem pieces_eq_split (octets : List UInt8) : pieces octets = split octets := by
  induction octets with
  | nil => rfl
  | cons b rest ih =>
    by_cases hb : b = newline
    · subst hb
      rw [split_newline, pieces, if_pos rfl, ih]
    · rw [split_cons hb, pieces, if_neg hb, ih]
      cases split rest <;> rfl

end Line

/-! ## What is held -/

theorem Unfinished.length_held_ofOctets_le (limit : Nat) (octets : List UInt8) :
    (ofOctets limit octets).held.length ≤ limit := by
  unfold ofOctets
  split
  · exact Nat.zero_le limit
  · next h => exact Nat.not_lt.1 h

namespace LineReader

/-- What is held at some moment of the next call: of a line without its newline after a number of
chunks, or of it with what the chunk after these adds to it. -/
inductive Holds (r : LineReader) : Unfinished → Prop
  | between {k : Nat} {line : Unfinished} :
    gather r.limit {} (r.chunks.take k) = .inl line → r.Holds line
  | within {k : Nat} {line : Unfinished} {chunk : List UInt8} :
    gather r.limit {} (r.chunks.take k) = .inl line → r.chunks[k]? = some chunk →
    r.Holds (line.add r.limit (Line.cut chunk).1)

/-- A line without its newline is held as its octets so far tell. -/
theorem eq_ofOctets_of_gather {limit : Nat} {chunks : List (List UInt8)} {line : Unfinished}
    (h : gather limit {} chunks = .inl line) : line = .ofOctets limit chunks.flatten := by
  rw [← Unfinished.ofOctets_nil limit] at h
  cases hcut : Line.cut chunks.flatten with
  | mk piece rest =>
    cases rest with
    | none =>
      rw [gather_eq_inl limit [] hcut, (Line.cut_eq_none_iff.1 hcut).1] at h
      exact (Sum.inl.inj h).symm
    | some after =>
      obtain ⟨rest, hgather, -⟩ := gather_eq_inr limit [] hcut
      rw [hgather] at h
      cases h

/-- No more of a line is held than the limit allows. -/
theorem Holds.length_le {r : LineReader} {line : Unfinished} (h : r.Holds line) :
    line.held.length ≤ r.limit := by
  cases h with
  | between hline =>
    rw [eq_ofOctets_of_gather hline]
    exact Unfinished.length_held_ofOctets_le r.limit _
  | within hline =>
    rw [eq_ofOctets_of_gather hline, Unfinished.add_ofOctets]
    exact Unfinished.length_held_ofOctets_le r.limit _

/-! ## The calls -/

/-- What the next `n` calls read. -/
def reads (r : LineReader) : Nat → List LineRead
  | 0 => []
  | n + 1 => r.next.1 :: r.next.2.reads n

/-- The reader after `n` calls. -/
def after (r : LineReader) : Nat → LineReader
  | 0 => r
  | n + 1 => r.next.2.after n

theorem limit_next (r : LineReader) : r.next.2.limit = r.limit := by
  unfold next
  split
  · rfl
  · split
    · split <;> rfl
    · rfl

theorem limit_after (r : LineReader) (n : Nat) : (r.after n).limit = r.limit := by
  induction n generalizing r with
  | zero => rfl
  | succ n ih => rw [after, ih, limit_next]

/-- With nothing left to read, every call finds the end. -/
theorem reads_of_pieces_nil {r : LineReader} (hended : r.ended = true)
    (h : Line.pieces r.chunks.flatten = []) (n : Nat) : r.reads n = List.replicate n .finished := by
  induction n generalizing r with
  | zero => rfl
  | succ n ih =>
    rw [reads, next_eq_finished hended h, List.replicate_succ]
    exact congrArg _ (ih hended rfl)

/-- The calls read one piece each, and then find the end. -/
theorem reads_eq {r : LineReader} (hended : r.ended = true) (n : Nat) :
    r.reads n = (((Line.pieces r.chunks.flatten).map fun piece =>
      LineRead.line (Line.ofPiece r.limit piece)) ++ List.replicate n LineRead.finished).take n := by
  induction n generalizing r with
  | zero => rfl
  | succ n ih =>
    cases hpieces : Line.pieces r.chunks.flatten with
    | nil =>
      rw [reads_of_pieces_nil hended hpieces, List.map_nil, List.nil_append,
        List.take_replicate, Nat.min_self]
    | cons piece later =>
      obtain ⟨chunks, hnext, hlater⟩ := next_eq_line hended hpieces
      have hrest := ih (r := { r with chunks := chunks }) hended
      rw [reads, hnext, List.map_cons, List.cons_append, List.take_succ_cons]
      refine congrArg _ ?_
      dsimp only
      rw [hrest, hlater, List.take_append, List.take_append]
      -- one end more in reserve does not show
      simp only [List.take_replicate]
      congr 2
      omega

/-- However octets are cut into chunks, a reader over them reads, call by call, the parts between
their newlines, and then finds the end; and no more of a line is held than the limit allows, at no
moment of any call. -/
theorem reads_exact (limit : Nat) (chunks : List (List UInt8)) (n : Nat) :
    let r : LineReader := { limit := limit, chunks := chunks, ended := true }
    r.reads n = (((Line.split chunks.flatten).map fun piece =>
        LineRead.line (Line.ofPiece limit piece)) ++ List.replicate n LineRead.finished).take n ∧
      ∀ line, (r.after n).Holds line → line.held.length ≤ limit := by
  intro r
  refine ⟨?_, fun line hline => ?_⟩
  · rw [← Line.pieces_eq_split]
    exact reads_eq rfl n
  · have hle := hline.length_le
    rwa [limit_after] at hle

end LineReader

end TaskWatch
