import TaskWatch.Proofs.Broker.Live
import TaskWatch.Tracker.Race

/-!
# Publications that go on after they have waited

A publication that lands puts its event into the queue that it has waited for, whatever the token of
that stream, and goes on to the others as ever (`land_cases`). So whatever a publication notices first
when it goes on (`GoesOn`), it touches the streams it has yet to come to and no others, gives back
what any publication does, and a terminal event gets to an open stream (`GoesOn.delivers`).
-/

namespace TaskWatch.Broker

variable {b : Broker} {p : Publication} {j : Nat} {ch : Channel}

/-- Either the event is the last of the next stream, or the publication goes on as ever. -/
theorem land_cases (b : Broker) (p : Publication) : b.land p = b.resume p ∨
    ∃ i rest ch, p.pending = i :: rest ∧ b.streams[i]? = some ch ∧ ch.hasStream = true ∧
      ch.isFull = false ∧ b.land p =
        advance ((b.setStream i { ch with queue := ch.queue ++ [p.event] }).closeStream i)
          { p with delivered := p.delivered + 1 } rest := by
  unfold land
  split
  · exact .inl rfl
  · next i rest hpending =>
    split
    · exact .inl rfl
    · next ch hch =>
      split
      · next hroom =>
        simp only [Bool.and_eq_true, Bool.not_eq_true'] at hroom
        exact .inr ⟨i, rest, ch, hpending, hch, hroom.1, hroom.2, rfl⟩
      · exact .inl rfl

theorem passes_land (b : Broker) (p : Publication) : Passes p.pending b (b.land p).2 := by
  obtain e | ⟨i, rest, ch, hpending, hch, -, -, e⟩ := b.land_cases p
  · rw [e]
    exact .advance b p p.pending
  · rw [e, hpending]
    have head : Passes [i] b ((b.setStream i { ch with queue := ch.queue ++ [p.event] }).closeStream i) :=
      .setStream_closeStream hch ⟨rfl, rfl, rfl⟩
    exact (head.mono (by simp)).trans
      ((Passes.advance _ _ rest).mono (List.subset_cons_self i rest))

theorem land_outcome (b : Broker) (p : Publication) : Outcome b p p.pending (b.land p) := by
  obtain e | ⟨i, rest, ch, hpending, -, -, -, e⟩ := b.land_cases p
  · rw [e]
    exact advance_outcome b p p.pending
  · rw [e]
    have skipped : Outcome b p (i :: rest)
        (advance ((b.setStream i { ch with queue := ch.queue ++ [p.event] }).closeStream i)
          { p with delivered := p.delivered + 1 } rest) :=
      (advance_outcome _ _ rest).skip (live_closeStream _ i)
    exact hpending.symm ▸ skipped

/-- A publication that has waited goes on, whatever it notices first. -/
def GoesOn (b : Broker) (p : Publication) (r : (Publication ⊕ Nat) × Broker) : Prop :=
  r = b.resume p ∨ r = b.land p

namespace GoesOn

variable {r : (Publication ⊕ Nat) × Broker}

theorem passes (h : GoesOn b p r) : Passes p.pending b r.2 := by
  obtain rfl | rfl := h
  · exact .advance b p p.pending
  · exact b.passes_land p

theorem outcome (h : GoesOn b p r) : Outcome b p p.pending r := by
  obtain rfl | rfl := h
  · exact b.advance_outcome p p.pending
  · exact b.land_outcome p

/-- A terminal event that is published for an open stream gets there. -/
theorem delivers (h : GoesOn b p r) (he : p.event.isTerminal = true) (hj : j ∈ p.pending)
    (hnodup : p.pending.Nodup) (hch : b.streams[j]? = some ch) (hopen : ch.Open)
    (htoken : b.tokens.isCancelled ch.token = false)
    (hother : ∀ i ∈ p.pending, i ≠ j →
      ∀ {ch'}, b.streams[i]? = some ch' → ch'.token ≠ ch.token) :
    Delivers j ch p.event r := by
  obtain rfl | rfl := h
  · exact advance_delivers he hj hnodup hch hopen htoken hother
  obtain e | ⟨i, rest, ch', hpending, hch', -, -, e⟩ := b.land_cases p
  · rw [e]
    exact advance_delivers he hj hnodup hch hopen htoken hother
  · rw [hpending] at hj hnodup hother
    obtain ⟨hi, hrest⟩ := List.nodup_cons.1 hnodup
    rw [e]
    by_cases hij : i = j
    · subst hij
      obtain rfl : ch' = ch := Option.some.inj (hch'.symm.trans hch)
      exact advance_delivered p.event hi hch
    · have hj' := (List.mem_cons.1 hj).resolve_left (Ne.symm hij)
      have hpass : Passes [i] b
          ((b.setStream i { ch' with queue := ch'.queue ++ [p.event] }).closeStream i) :=
        .setStream_closeStream hch' ⟨rfl, rfl, rfl⟩
      refine .of_passes hpass hij hch hopen htoken hother fun hch₁ hopen₁ htoken₁ hother₁ => ?_
      exact advance_delivers (p := { p with delivered := p.delivered + 1 }) he hj' hrest hch₁ hopen₁
        htoken₁ hother₁

end GoesOn

end TaskWatch.Broker
