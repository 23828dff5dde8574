import TaskWatch.Line.Reader

/-!
# The lines of a reader

What a reader holds of an unfinished line can be told from the octets of the line alone
(`Unfinished.ofOctets`), so the borders of chunks mean nothing to it.

* `LineReader.next_eq_finished`, `LineReader.next_eq_line`: what an ended reader reads next, by the
  pieces of what has come;
* `LineReader.lines_eq`: an ended reader reads the pieces of what has come, and nothing else.
-/

namespace TaskWatch

namespace Line

/-! ## Cutting -/

/-- More octets only change what follows the first newline, if there is one. -/
theorem cut_append_of_some {octets before after : List UInt8}
    (h : cut octets = (before, some after)) (more : List UInt8) :
    cut (octets ++ more) = (before, some (after ++ more)) := by
  obtain ⟨rfl, hnot⟩ := cut_eq_some_iff.1 h
  refine cut_eq_some_iff.2 ⟨?_, hnot⟩
  rw [List.append_assoc, List.cons_append]

theorem cut_append_of_none {octets before : List UInt8} (h : cut octets = (before, none))
    (more : List UInt8) : cut (octets ++ more) = (before ++ (cut more).1, (cut more).2) := by
  obtain ⟨rfl, hnot⟩ := cut_eq_none_iff.1 h
  cases hmore : cut more with
  | mk first rest =>
    cases rest with
    | none =>
      obtain ⟨rfl, hnot'⟩ := cut_eq_none_iff.1 hmore
      refine cut_eq_none_iff.2 ⟨rfl, fun hm => ?_⟩
      rcases List.mem_append.1 hm with hm | hm
      · exact hnot hm
      · exact hnot' hm
    | some after =>
      obtain ⟨rfl, hnot'⟩ := cut_eq_some_iff.1 hmore
      refine cut_eq_some_iff.2 ⟨?_, fun hm => ?_⟩
      · rw [List.append_assoc]
      · rcases List.mem_append.1 hm with hm | hm
        · exact hnot hm
        · exact hnot' hm

theorem pieces_of_cut_some {octets before after : List UInt8}
    (h : cut octets = (before, some after)) : pieces octets = before :: pieces after := by
  obtain ⟨rfl, hnot⟩ := cut_eq_some_iff.1 h
  exact pieces_append_newline after hnot

theorem pieces_of_cut_none {octets before : List UInt8} (h : cut octets = (before, none)) :
    pieces octets = if before.isEmpty then [] else [before] := by
  obtain ⟨rfl, hnot⟩ := cut_eq_none_iff.1 h
  cases before with
  | nil => rfl
  | cons b rest => exact pieces_of_notMem hnot (List.cons_ne_nil b rest)

end Line

/-! ## Unfinished lines -/

namespace Unfinished

/-- An unfinished line, from its octets. -/
def ofOctets (limit : Nat) (octets : List UInt8) : Unfinished :=
  if limit < octets.length then ⟨[], true⟩ else ⟨octets, false⟩

theorem ofOctets_nil (limit : Nat) : ofOctets limit [] = {} := by
  rw [ofOctets, List.length_nil, if_neg (Nat.not_lt_zero limit)]

theorem add_ofOctets (limit : Nat) (octets more : List UInt8) :
    (ofOctets limit octets).add limit more = ofOctets limit (octets ++ more) := by
  have hlength : (octets ++ more).length = octets.length + more.length := List.length_append
  by_cases hlong : limit < octets.length
  · have hlong' : limit < (octets ++ more).length := by omega
    rw [ofOctets, if_pos hlong, ofOctets, if_pos hlong']
    rfl
  · rw [ofOctets, if_neg hlong, ofOctets, hlength]
    rfl

theorem finish_ofOctets (limit : Nat) (octets : List UInt8) :
    (ofOctets limit octets).finish = Line.ofPiece limit octets := by
  unfold ofOctets Line.ofPiece
  split <;> rfl

theorem finishAtEnd_ofOctets (limit : Nat) (octets : List UInt8) :
    (ofOctets limit octets).finishAtEnd =
      if octets.isEmpty then none else some (Line.ofPiece limit octets) := by
  by_cases hlong : limit < octets.length
  · have hne : ¬octets.isEmpty = true := by
      rw [List.isEmpty_iff]
      rintro rfl
      exact absurd hlong (Nat.not_lt_zero limit)
    rw [ofOctets, if_pos hlong, if_neg hne, Line.ofPiece, if_pos hlong]
    rfl
  · rw [ofOctets, if_neg hlong, Line.ofPiece, if_neg hlong]
    rfl

end Unfinished

/-! ## Reading -/

namespace LineReader

/-- Without a newline in them, all chunks are gathered. -/
theorem gather_eq_inl (limit : Nat) (before : List UInt8) {piece : List UInt8}
    {chunks : List (List UInt8)} (h : Line.cut chunks.flatten = (piece, none)) :
    gather limit (.ofOctets limit before) chunks = .inl (.ofOctets limit (before ++ piece)) := by
  induction chunks generalizing before piece with
  | nil =>
    obtain ⟨rfl, -⟩ := Prod.mk.inj h
    rw [List.append_nil]
    rfl
  | cons chunk chunks ih =>
    rw [List.flatten_cons] at h
    rw [gather]
    cases hcut : Line.cut chunk with
    | mk first rest =>
      cases rest with
      | some after =>
        rw [Line.cut_append_of_some hcut] at h
        cases h
      | none =>
        rw [Line.cut_append_of_none hcut] at h
        obtain ⟨rfl, hrest⟩ := Prod.mk.inj h
        dsimp only
        rw [Unfinished.add_ofOctets, ih _ (Prod.ext rfl hrest), List.append_assoc]

/-- The chunks are gathered up to the first newline. -/
theorem gather_eq_inr (limit : Nat) (before : List UInt8) {piece after : List UInt8}
    {chunks : List (List UInt8)} (h : Line.cut chunks.flatten = (piece, some after)) :
    ∃ rest, gather limit (.ofOctets limit before) chunks =
      .inr (Line.ofPiece limit (before ++ piece), rest) ∧ rest.flatten = after := by
  induction chunks generalizing before piece with
  | nil => cases h
  | cons chunk chunks ih =>
    rw [List.flatten_cons] at h
    rw [gather]
    cases hcut : Line.cut chunk with
    | mk first rest =>
      cases rest with
      | some later =>
        rw [Line.cut_append_of_some hcut] at h
        obtain ⟨rfl, hafter⟩ := Prod.mk.inj h
        dsimp only
        rw [Unfinished.add_ofOctets, Unfinished.finish_ofOctets]
        exact ⟨later :: chunks, rfl, Option.some.inj hafter⟩
      | none =>
        rw [Line.cut_append_of_none hcut] at h
        obtain ⟨rfl, hafter⟩ := Prod.mk.inj h
        dsimp only
        rw [Unfinished.add_ofOctets, ← List.append_assoc]
        exact ih _ (Prod.ext rfl hafter)

variable {r : LineReader}

/-- When nothing has come that is not read yet, an ended reader has finished. -/
theorem next_eq_finished (hended : r.ended = true) (h : Line.pieces r.chunks.flatten = []) :
    r.next = (.finished, { r with chunks := [] }) := by
  cases hcut : Line.cut r.chunks.flatten with
  | mk piece rest =>
    cases rest with
    | some after =>
      rw [Line.pieces_of_cut_some hcut] at h
      cases h
    | none =>
      rw [Line.pieces_of_cut_none hcut] at h
      have hempty : piece.isEmpty = true := by
        cases piece with
        | nil => rfl
        | cons => cases h
      rw [next, ← Unfinished.ofOctets_nil r.limit, gather_eq_inl r.limit [] hcut, List.nil_append]
      dsimp only
      rw [if_pos hended, Unfinished.finishAtEnd_ofOctets, if_pos hempty]

/-- Otherwise it reads the first piece, and leaves the others. -/
theorem next_eq_line (hended : r.ended = true) {piece : List UInt8} {later : List (List UInt8)}
    (h : Line.pieces r.chunks.flatten = piece :: later) :
    ∃ chunks, r.next = (.line (Line.ofPiece r.limit piece), { r with chunks := chunks }) ∧
      Line.pieces chunks.flatten = later := by
  cases hcut : Line.cut r.chunks.flatten with
  | mk first rest =>
    cases rest with
    | some after =>
      rw [Line.pieces_of_cut_some hcut] at h
      obtain ⟨rfl, rfl⟩ := List.cons.inj h
      obtain ⟨chunks, hgather, rfl⟩ := gather_eq_inr r.limit [] hcut
      refine ⟨chunks, ?_, rfl⟩
      rw [next, ← Unfinished.ofOctets_nil r.limit, hgather]
      rfl
    | none =>
      rw [Line.pieces_of_cut_none hcut] at h
      by_cases hempty : first.isEmpty
      · rw [if_pos hempty] at h
        cases h
      · rw [if_neg hempty] at h
        obtain ⟨rfl, rfl⟩ := List.cons.inj h
        refine ⟨[], ?_, rfl⟩
        rw [next, ← Unfinished.ofOctets_nil r.limit, gather_eq_inl r.limit [] hcut, List.nil_append]
        dsimp only
        rw [if_pos hended, Unfinished.finishAtEnd_ofOctets, if_neg hempty]

/-- However the octets were cut into chunks, an ended reader reads their pieces. -/
theorem lines_eq (hended : r.ended = true) :
    r.lines = (Line.pieces r.chunks.flatten).map (Line.ofPiece r.limit) := by
  generalize hpieces : Line.pieces r.chunks.flatten = pieces
  induction pieces generalizing r with
  | nil =>
    rw [lines]
    split
    · next l s hnext =>
      rw [next_eq_finished hended hpieces] at hnext
      cases hnext
    · rfl
    · rfl
  | cons piece later ih =>
    obtain ⟨chunks, hline, hlater⟩ := next_eq_line hended hpieces
    have hrest := ih (r := { r with chunks := chunks }) hended hlater
    rw [lines]
    split
    · next l s hnext =>
      obtain ⟨hl, rfl⟩ := Prod.mk.inj (hline.symm.trans hnext)
      obtain rfl := LineRead.line.inj hl
      rw [hrest]
      rfl
    · next hnext => cases hline.symm.trans hnext
    · next hnext => cases hline.symm.trans hnext

end LineReader

end TaskWatch
