import TaskWatch.Proofs.Client.Watch

/-!
# What a daemon says

A daemon says what its script lets it say: it waits for a line of the client wherever the script
reads, and whatever it writes stays the same however the client cuts its own octets
(`Script.said`). A conversation adds nothing to that. At every moment the client can read what the
daemon has said by then, less what was read already (`Conversation.At`): it writes, and more is said
(`At.send`); it reads, and one line is gone (`At.readLine`).
-/

namespace TaskWatch

/-- What a daemon has said. -/
structure Speech where
  octets : List UInt8
  /-- Whether it has closed its end. -/
  closed : Bool
  deriving DecidableEq, Repr

namespace Speech

/-- The first line, and what follows it. Without a newline a line is complete only when the daemon has
closed its end, if there is anything in it. -/
def line? (s : Speech) : Option (List UInt8 × Speech) :=
  match Line.cut s.octets with
  | (piece, some rest) => some (piece, ⟨rest, s.closed⟩)
  | (piece, none) => if s.closed && !piece.isEmpty then some (piece, ⟨[], true⟩) else none

theorem line?_eq_some {s rest : Speech} {piece : List UInt8} :
    s.line? = some (piece, rest) ↔
      Line.cut s.octets = (piece, some rest.octets) ∧ rest.closed = s.closed ∨
        Line.cut s.octets = (piece, none) ∧ s.closed = true ∧ piece.isEmpty = false ∧
          rest = ⟨[], true⟩ := by
  obtain ⟨octets, closed⟩ := rest
  rw [line?]
  cases Line.cut s.octets with
  | mk first later =>
    cases later with
    | some after =>
      constructor
      · intro h
        obtain ⟨rfl, hrest⟩ := Prod.mk.inj (Option.some.inj h)
        obtain ⟨rfl, rfl⟩ := Speech.mk.inj hrest
        exact .inl ⟨rfl, rfl⟩
      · rintro (⟨h, rfl⟩ | ⟨h, -⟩)
        · obtain ⟨rfl, hrest⟩ := Prod.mk.inj h
          rw [Option.some.inj hrest]
        · cases h
    | none =>
      dsimp only
      rw [Option.ite_none_right_eq_some, Bool.and_eq_true, Bool.not_eq_true']
      constructor
      · rintro ⟨⟨hclosed, hempty⟩, h⟩
        obtain ⟨rfl, hrest⟩ := Prod.mk.inj (Option.some.inj h)
        exact .inr ⟨rfl, hclosed, hempty, hrest.symm⟩
      · rintro (⟨h, -⟩ | ⟨h, hclosed, hempty, hrest⟩)
        · cases h
        · obtain ⟨rfl, -⟩ := Prod.mk.inj h
          rw [hrest]
          exact ⟨⟨hclosed, hempty⟩, rfl⟩

/-- A line that is complete stays so when more is said. -/
theorem line?_more {s rest : Speech} {piece : List UInt8} (h : s.line? = some (piece, rest))
    (more : Speech) (hclosed : s.closed = true → more = ⟨[], true⟩) :
    (Speech.mk (s.octets ++ more.octets) more.closed).line? =
      some (piece, ⟨rest.octets ++ more.octets, more.closed⟩) := by
  rw [line?_eq_some] at h ⊢
  obtain ⟨hcut, -⟩ | ⟨hcut, hclosed', hempty, rfl⟩ := h
  · exact .inl ⟨Line.cut_append_of_some hcut more.octets, rfl⟩
  · rw [hclosed hclosed', List.append_nil, List.append_nil]
    exact .inr ⟨hcut, rfl, hempty, rfl⟩

/-- What reading a line under a limit gives. -/
def next (s : Speech) (limit : Nat) : LineRead :=
  match s.line? with
  | some (piece, _) => .line (Line.ofPiece limit piece)
  | none => if s.closed then .finished else .waiting

end Speech

/-- What comes of waiting for a line. -/
def LineRead.awaited (limit : Nat) (time : Duration) : LineRead → Except ClientError (Option String)
  | .line (.text s) => .ok (some s)
  | .line .tooLong => .error (.lineTooLong limit)
  | .finished => .ok none
  | .waiting => .error (.timeout time)

/-- What a daemon with a script has said when the client has written these octets. -/
def Script.said : Script → List UInt8 → Speech
  | [], _ => ⟨[], true⟩
  | .write octets :: rest, written =>
    ⟨octets ++ (Script.said rest written).octets, (Script.said rest written).closed⟩
  | .hold :: _, _ => ⟨[], false⟩
  | .read :: rest, written =>
    match Line.cut written with
    | (_, some later) => Script.said rest later
    | (_, none) => ⟨[], false⟩

/-! ## Readers -/

namespace LineReader

/-- What a reader can still read, if nothing more comes. -/
def speech (r : LineReader) : Speech := ⟨r.chunks.flatten, r.ended⟩

theorem ended_next (r : LineReader) : r.next.2.ended = r.ended := by
  rw [next]
  split
  · rfl
  · split
    · split <;> rfl
    · rfl

variable {r : LineReader}

/-- What a reader reads is what has been said. -/
theorem next_eq (r : LineReader) : r.next.1 = r.speech.next r.limit ∧
    ∀ {piece rest}, r.speech.line? = some (piece, rest) →
      r.next.2.chunks.flatten = rest.octets := by
  cases hcut : Line.cut r.chunks.flatten with
  | mk first later =>
    cases later with
    | some after =>
      have hline : r.speech.line? = some (first, ⟨after, r.ended⟩) := by
        rw [Speech.line?, speech, hcut]
      obtain ⟨chunks, hgather, hafter⟩ := gather_eq_inr r.limit [] hcut
      rw [Speech.next, hline, next, ← Unfinished.ofOctets_nil r.limit, hgather]
      refine ⟨rfl, fun h => ?_⟩
      obtain ⟨-, rfl⟩ := Prod.mk.inj (Option.some.inj h)
      exact hafter
    | none =>
      have hline : r.speech.line? =
          if r.ended && !first.isEmpty then some (first, ⟨[], true⟩) else none := by
        rw [Speech.line?, speech, hcut]
      rw [Speech.next, hline, next, ← Unfinished.ofOctets_nil r.limit,
        gather_eq_inl r.limit [] hcut, List.nil_append]
      dsimp only
      rw [Unfinished.finishAtEnd_ofOctets, speech]
      cases r.ended with
      | false => exact ⟨rfl, fun h => by cases h⟩
      | true =>
        cases first.isEmpty with
        | true => exact ⟨rfl, fun h => by cases h⟩
        | false =>
          refine ⟨rfl, fun h => ?_⟩
          obtain ⟨-, rfl⟩ := Prod.mk.inj (Option.some.inj h)
          rfl

end LineReader

/-! ## Conversations -/

namespace Conversation

/-- What the client can read once it has written more. -/
def speech (c : Conversation) (more : List UInt8) : Speech :=
  ⟨c.reader.chunks.flatten ++ (c.script.said (c.unread ++ more)).octets,
    (c.script.said (c.unread ++ more)).closed⟩

/-- The daemon has nothing more to say until the client writes. -/
def Settled (c : Conversation) : Prop :=
  if c.reader.ended then c.script = [] else c.script.said c.unread = ⟨[], false⟩

theorem Settled.speech {c : Conversation} (h : c.Settled) : c.speech [] = c.reader.speech := by
  rw [Conversation.speech, List.append_nil, LineReader.speech]
  rw [Settled] at h
  split at h
  · next hended =>
    rw [h, hended, Script.said, List.append_nil]
  · next hended =>
    rw [h, List.append_nil, eq_false_of_ne_true hended]

/-- Following a script says what the script says. -/
theorem speech_follow (c : Conversation) (script : Script) (more : List UInt8) :
    (c.follow script).speech more =
      ⟨c.reader.chunks.flatten ++ (script.said (c.unread ++ more)).octets,
        (script.said (c.unread ++ more)).closed⟩ := by
  induction script generalizing c with
  | nil => rfl
  | cons step rest ih =>
    cases step with
    | write octets =>
      rw [follow, ih, Script.said, LineReader.receive]
      dsimp only
      rw [List.flatten_append, List.flatten_singleton, List.append_assoc]
    | hold => rfl
    | read =>
      rw [follow, Script.said]
      cases hcut : Line.cut c.unread with
      | mk line later =>
        cases later with
        | some unread =>
          dsimp only
          rw [ih, Line.cut_append_of_some hcut]
        | none =>
          dsimp only
          rw [Conversation.speech, Script.said]

/-- A daemon follows its script until it has nothing more to say. -/
theorem settled_follow (c : Conversation) (script : Script) (hended : c.reader.ended = false) :
    (c.follow script).Settled := by
  induction script generalizing c with
  | nil => rfl
  | cons step rest ih =>
    cases step with
    | write octets => exact ih _ hended
    | hold =>
      rw [follow, Settled, if_neg (by rw [hended]; decide)]
      rfl
    | read =>
      rw [follow]
      cases hcut : Line.cut c.unread with
      | mk line later =>
        cases later with
        | some unread => exact ih _ hended
        | none =>
          dsimp only
          rw [Settled, if_neg (by rw [hended]; decide), Script.said, hcut]

/-- How a conversation stands: the limit for lines, what the client has written, and what it can read
once it has written more. -/
structure At (c : Conversation) (limit : Nat) (written : List UInt8)
    (hears : List UInt8 → Speech) : Prop where
  settled : c.Settled
  limit : c.reader.limit = limit
  written : c.written = written
  hears : ∀ more, c.speech more = hears more

theorem at_start (script : Script) (limit : Nat) : (start script limit).At limit [] script.said where
  settled := settled_follow _ script rfl
  limit := limit_follow _ script
  written := written_start script limit
  hears more := by
    rw [start, speech_follow]
    rfl

/-- What is left to be read after a line. -/
theorem speech_readLine {c : Conversation} (settled : c.Settled) {piece : List UInt8} {rest : Speech}
    (h : (c.speech []).line? = some (piece, rest)) (more : List UInt8) :
    (c.speech more).line? = some (piece, c.readLine.2.speech more) := by
  rw [settled.speech] at h
  have hrest := (LineReader.next_eq c.reader).2 h
  show (Speech.mk (c.reader.speech.octets ++ _) _).line? =
    some (piece, ⟨c.reader.next.2.chunks.flatten ++ _, _⟩)
  rw [hrest]
  refine Speech.line?_more h _ fun hclosed => ?_
  -- The daemon has closed its end, so nothing more can come.
  have hended : c.reader.ended = true := hclosed
  rw [Settled, if_pos hended] at settled
  rw [settled]
  rfl

namespace At

variable {c : Conversation} {limit : Nat} {written : List UInt8} {hears : List UInt8 → Speech}

theorem send (h : c.At limit written hears) (text : String) :
    (c.send text).At limit (written ++ Utf8.encode text)
      fun more => hears (Utf8.encode text ++ more) where
  settled := by
    have settled := h.settled
    rw [Settled] at settled
    split at settled
    · rw [Conversation.send, settled]
      rfl
    · next hended => exact settled_follow _ c.script (eq_false_of_ne_true hended)
  limit := (limit_send c text).trans h.limit
  written := by rw [written_send, h.written]
  hears more := by
    rw [Conversation.send, speech_follow, ← h.hears, speech]
    dsimp only
    rw [List.append_assoc]

theorem readLine (h : c.At limit written hears) : c.readLine.2.At limit written c.readLine.2.speech where
  settled := by
    have settled := h.settled
    have hended : c.readLine.2.reader.ended = c.reader.ended := c.reader.ended_next
    rw [Settled] at settled ⊢
    rw [hended]
    exact settled
  limit := (limit_readLine c).trans h.limit
  written := h.written
  hears _ := rfl

/-- The client waits for a line, and what follows it is left. -/
theorem awaitLine (h : c.At limit written hears) (time : Duration) :
    (awaitLine time c).1 = ((hears []).next limit).awaited limit time ∧
      ∃ hears', (awaitLine time c).2.At limit written hears' ∧
        ∀ {piece rest}, (hears []).line? = some (piece, rest) →
          ∀ more, (hears more).line? = some (piece, hears' more) := by
  have split : Conversation.awaitLine time c =
      (c.readLine.1.awaited c.readLine.2.reader.limit time, c.readLine.2) := by
    rw [Conversation.awaitLine]
    split <;> next hread => rw [hread]; rfl
  have hnext : c.readLine.1 = (hears []).next limit := by
    rw [← h.hears, h.settled.speech, ← h.limit]
    exact c.reader.next_eq.1
  rw [split, hnext, h.readLine.limit]
  refine ⟨rfl, _, h.readLine, fun hline more => ?_⟩
  rw [← h.hears] at hline ⊢
  exact speech_readLine h.settled hline more

end At

end Conversation

end TaskWatch
