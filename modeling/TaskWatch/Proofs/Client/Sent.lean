import TaskWatch.Proofs.Client.Watch
import TaskWatch.Proofs.Instant
import TaskWatch.Proofs.Json.Plain
import TaskWatch.Proofs.Text.NonBlank
import TaskWatch.Proofs.Text.Utf8
import TaskWatch.Proofs.Wire.Messages

/-!
# Events sent as lines

A daemon sends an acknowledgement and then lines, some of which are the texts of events; whatever
else it sends is passed over (`Carries`). An event stands on one line, since no JSON text holds a
newline, and an event that is read back from its text is found again in its octets
(`Feed.eventOf?_encode`). So the lines of the watch carry the events that were sent, in their order
(`Client.watchAnswer_written`).
-/

namespace TaskWatch

/-! ## Lines as octets -/

namespace Line

/-- Lines as octets, each with its newline. -/
def written (pieces : List (List UInt8)) : List UInt8 := pieces.flatMap (· ++ [newline])

theorem pieces_written {lines : List (List UInt8)} (h : ∀ piece ∈ lines, newline ∉ piece) :
    pieces (written lines) = lines := by
  induction lines with
  | nil => rfl
  | cons piece lines ih =>
    have hcut := pieces_append_newline (written lines) (h piece List.mem_cons_self)
    have hrest := ih fun p hp => h p (List.mem_cons_of_mem piece hp)
    rw [written, List.flatMap_cons, List.append_assoc, List.singleton_append]
    exact hcut.trans (congrArg (piece :: ·) hrest)

end Line

/-! ## The text of an event -/

namespace Event

/-- The text of an event is an object. -/
theorem exists_text_eq (e : Event) :
    ∃ cs, e.text.toList = '{' :: cs ++ ['}'] ∧ Json.Plain e.text.toList := by
  refine ⟨_, String.toList_ofList, ?_⟩
  have htext : e.text.toList = e.toWire.toJson.chars := String.toList_ofList
  rw [htext]
  exact Json.plain_chars e.toWire.toJson

/-- Nothing is lost when the text of an event is trimmed. -/
theorem nonBlank?_text (e : Event) : Text.nonBlank? e.text = some e.text := by
  obtain ⟨cs, htext, -⟩ := e.exists_text_eq
  have hfirst : e.text.toList = '{' :: (cs ++ ['}']) := htext
  exact Text.nonBlank?_of_ends hfirst (by decide) htext (by decide)

/-- No octet of the text of an event is a control character. -/
theorem le_of_mem_encode (e : Event) {octet : UInt8} (h : octet ∈ Utf8.encode e.text) :
    32 ≤ octet.toNat := by
  obtain ⟨cs, -, hplain⟩ := e.exists_text_eq
  exact Utf8.le_of_mem_encode (by decide) hplain h

theorem newline_not_mem (e : Event) : Line.newline ∉ Utf8.encode e.text := fun h =>
  absurd (e.le_of_mem_encode h) (by decide)

/-- The text of an event is read off its octets. -/
theorem textOf_encode (e : Event) : Line.textOf (Utf8.encode e.text) = e.text := by
  have hreturn : ¬(Utf8.encode e.text).getLast? = some Line.carriageReturn := fun h =>
    absurd (e.le_of_mem_encode (List.mem_of_getLast? h)) (by decide)
  rw [Line.textOf, Line.dropReturn, if_neg hreturn, Utf8.decodeLossy_encode]

end Event

/-- An event that lasts as a text is found again in its octets. -/
theorem Feed.eventOf?_encode {e : Event} (h : Event.ofLine e.text = .ok e) {limit : Nat}
    (hlimit : (Utf8.encode e.text).length ≤ limit) :
    eventOf? (Line.ofPiece limit (Utf8.encode e.text)) = some e := by
  have hpiece : Line.ofPiece limit (Utf8.encode e.text) = .text e.text := by
    rw [Line.ofPiece, if_neg (by omega), e.textOf_encode]
  rw [hpiece, eventOf?, e.nonBlank?_text, Option.bind_some, h]
  rfl

/-! ## What a daemon sends -/

/-- The lines of a watch under a limit carry some events: each event stands on a line of its own, and
the other lines are passed over. -/
inductive Carries (limit : Nat) : List (List UInt8) → List Event → Prop
  | nil : Carries limit [] []
  | event {e : Event} {sent : List (List UInt8)} {events : List Event}
      (hread : Event.ofLine e.text = .ok e) (hlimit : (Utf8.encode e.text).length ≤ limit)
      (h : Carries limit sent events) : Carries limit (Utf8.encode e.text :: sent) (e :: events)
  | noise {piece : List UInt8} {sent : List (List UInt8)} {events : List Event}
      (hline : Line.newline ∉ piece) (hnone : Feed.eventOf? (Line.ofPiece limit piece) = none)
      (h : Carries limit sent events) : Carries limit (piece :: sent) events

namespace Carries

variable {limit : Nat} {sent : List (List UInt8)} {events : List Event}

/-- Events that last as texts are carried by the lines that they stand on. -/
theorem of_texts (h : ∀ e ∈ events, Event.ofLine e.text = .ok e ∧
    (Utf8.encode e.text).length ≤ limit) :
    Carries limit (events.map fun e => Utf8.encode e.text) events := by
  induction events with
  | nil => exact .nil
  | cons e rest ih =>
    obtain ⟨hread, hlimit⟩ := h e List.mem_cons_self
    exact .event hread hlimit (ih fun e' he => h e' (List.mem_cons_of_mem e he))

theorem newline_not_mem (h : Carries limit sent events) : ∀ piece ∈ sent, Line.newline ∉ piece := by
  induction h with
  | nil => exact nofun
  | @event e _ _ _ _ _ ih => exact List.forall_mem_cons.2 ⟨e.newline_not_mem, ih⟩
  | noise hline _ _ ih => exact List.forall_mem_cons.2 ⟨hline, ih⟩

/-- The events of the lines are those that were sent, up to the first terminal one. -/
theorem eventsOf (h : Carries limit sent events) :
    Feed.eventsOf (sent.map (Line.ofPiece limit)) = throughTerminal events := by
  have hevents : (sent.map (Line.ofPiece limit)).filterMap Feed.eventOf? = events := by
    induction h with
    | nil => rfl
    | event hread hlimit _ ih =>
      rw [List.map_cons, List.filterMap_cons_some (Feed.eventOf?_encode hread hlimit), ih]
    | noise _ hnone _ ih => rw [List.map_cons, List.filterMap_cons_none hnone, ih]
  rw [Feed.eventsOf, hevents]

end Carries

namespace Client

/-- A line acknowledges a watch. -/
structure Acknowledges (limit : Nat) (piece : List UInt8) : Prop where
  line : Line.newline ∉ piece
  positive : ∃ first kept, Line.ofPiece limit piece = .text first ∧
    Text.nonBlank? first = some kept ∧ acknowledged kept = .ok ()

/-- What comes of a watch that is acknowledged: the lines after the acknowledgement are left. -/
theorem watchAnswer_written (client : Client) {ack : List UInt8} {sent : List (List UInt8)}
    (hack : Acknowledges client.options.maxStreamLineBytes ack)
    (hsent : ∀ piece ∈ sent, Line.newline ∉ piece) :
    watchAnswer client.options.maxStreamLineBytes
        (client.watchLines (Line.written (ack :: sent))) =
      .ok (sent.map (Line.ofPiece client.options.maxStreamLineBytes)) := by
  obtain ⟨first, kept, hfirst, hkept, hpositive⟩ := hack.positive
  rw [watchLines, Line.pieces_written (List.forall_mem_cons.2 ⟨hack.line, hsent⟩), List.map_cons,
    hfirst, watchAnswer, hkept]
  dsimp only
  rw [hpositive]
  rfl

end Client

end TaskWatch
