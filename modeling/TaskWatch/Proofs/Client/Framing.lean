import TaskWatch.Proofs.Client.Sent

/-!
# Messages as lines

What a client sends are messages: requests, and the line that shows the token. Every message ends
with a newline. The text of a request holds no other one, whatever texts and values stand in its
fields, because JSON escapes them. The token is written as it is, so each newline inside the token
starts a line of its own (`Message.framing_exact`): a token from a registry can make two lines of one
message (`Message.token_of_two_lines`).
-/

namespace TaskWatch

/-! ## Newlines in octets -/

namespace Utf8

/-- Only a newline has the octet of a newline. -/
theorem count_newline_encodeChar (c : Char) :
    (encodeChar c).count Line.newline = [c].count '\n' := by
  by_cases hc : c = '\n'
  · rw [hc]
    decide
  · rw [List.count_eq_zero.2 fun h => hc (List.mem_singleton.1 h).symm, List.count_eq_zero]
    intro h
    by_cases hascii : c.toNat < 0x80
    · rw [encodeChar, if_pos hascii, List.mem_singleton] at h
      have hcode : (UInt8.ofNat c.toNat).toNat = Line.newline.toNat := congrArg UInt8.toNat h.symm
      rw [toNat_ofNat (by omega)] at hcode
      exact hc (Char.toNat_inj.1 hcode)
    · exact absurd (le_of_mem_encodeChar (Nat.le_refl 0x80) (Nat.not_lt.1 hascii) h) (by decide)

theorem count_newline_encode (s : String) :
    (encode s).count Line.newline = s.toList.count '\n' := by
  rw [encode]
  induction s.toList with
  | nil => rfl
  | cons c cs ih =>
    rw [List.flatMap_cons, List.count_append, ih, count_newline_encodeChar, ← List.count_append]
    rfl

theorem encode_append (s t : String) : encode (s ++ t) = encode s ++ encode t := by
  rw [encode, String.toList_append, List.flatMap_append]
  rfl

end Utf8

namespace Line

/-- Octets with a newline after them are as many lines as they hold newlines, and one more. -/
theorem length_pieces_append_newline (octets rest : List UInt8) :
    (pieces (octets ++ newline :: rest)).length =
      octets.count newline + 1 + (pieces rest).length := by
  induction octets with
  | nil =>
    rw [List.nil_append, pieces, if_pos rfl, List.length_cons, List.count_nil]
    omega
  | cons b octets ih =>
    rw [List.cons_append, pieces, List.count_cons]
    by_cases hb : b = newline
    · rw [if_pos hb, List.length_cons, ih, if_pos (beq_iff_eq.2 hb)]
      omega
    · rw [if_neg hb, if_neg (by simpa using hb)]
      cases hpieces : pieces (octets ++ newline :: rest) with
      | nil =>
        rw [hpieces, List.length_nil] at ih
        omega
      | cons first later =>
        rw [hpieces, List.length_cons] at ih
        exact ih

/-- A line holds no newline. -/
theorem newline_notMem_of_mem_pieces {octets piece : List UInt8} (h : piece ∈ pieces octets) :
    newline ∉ piece := by
  induction octets generalizing piece with
  | nil => cases h
  | cons b octets ih =>
    rw [pieces] at h
    by_cases hb : b = newline
    · rw [if_pos hb] at h
      obtain rfl | h := List.mem_cons.1 h
      · exact List.not_mem_nil
      · exact ih h
    · rw [if_neg hb] at h
      have hmore : ∀ first, newline ∉ first → newline ∉ b :: first := fun first hfirst hm =>
        (List.mem_cons.1 hm).elim (fun e => hb e.symm) hfirst
      cases hpieces : pieces octets with
      | nil =>
        rw [hpieces] at h
        rw [List.mem_singleton.1 h]
        exact hmore [] List.not_mem_nil
      | cons first later =>
        rw [hpieces] at h ih
        obtain rfl | h := List.mem_cons.1 h
        · exact hmore first (ih List.mem_cons_self)
        · exact ih (List.mem_cons_of_mem first h)

end Line

/-! ## Messages -/

/-- What a client writes in one piece. -/
inductive Message where
  | request (request : Wire.Request)
  /-- The token is shown. -/
  | auth (token : String)

namespace Message

/-- The text of a message without the newline at its end. -/
def body : Message → String
  | request r => r.toJson.text
  | auth token => "AUTH " ++ token

/-- The octets of a message. -/
def octets : Message → List UInt8
  | request r => Utf8.encode r.line
  | auth token => Utf8.encode (Conversation.authLine token)

/-- How many newlines stand inside a message. -/
def breaks : Message → Nat
  | request _ => 0
  | auth token => token.toList.count '\n'

theorem octets_eq (m : Message) : m.octets = Utf8.encode m.body ++ [Line.newline] := by
  have hend : Utf8.encode "\n" = [Line.newline] := by decide
  cases m with
  | request r =>
    show Utf8.encode (r.toJson.text ++ "\n") = _
    rw [Utf8.encode_append, hend]
    rfl
  | auth token =>
    show Utf8.encode ("AUTH " ++ token ++ "\n") = _
    rw [Utf8.encode_append, hend]
    rfl

theorem count_body (m : Message) : (Utf8.encode m.body).count Line.newline = m.breaks := by
  rw [Utf8.count_newline_encode]
  cases m with
  | request r =>
    -- Every control character of a field is escaped.
    have hplain : Json.Plain r.toJson.text.toList := by
      rw [Json.text, String.toList_ofList]
      exact Json.plain_chars r.toJson
    exact List.count_eq_zero.2 fun h => absurd (hplain _ h) (by decide)
  | auth token =>
    show ("AUTH " ++ token).toList.count '\n' = _
    rw [String.toList_append, List.count_append]
    exact Nat.zero_add _

/-- What the lines are that a list of messages makes. -/
structure Lines (messages : List Message) : Prop where
  /-- A message ends with a newline, and a request has no other one. -/
  ended : ∀ m ∈ messages, m.octets.getLast? = some Line.newline ∧
    m.octets.count Line.newline = m.breaks + 1
  /-- A reader of lines sees one line for each message, and one more for each newline in a token. -/
  count : (Line.pieces (messages.flatMap octets)).length = (messages.map (·.breaks + 1)).sum
  /-- It sees the messages themselves just when no token holds a newline. -/
  apart : Line.pieces (messages.flatMap octets) = messages.map (Utf8.encode ·.body) ↔
    ∀ token, auth token ∈ messages → '\n' ∉ token.toList

theorem framing_exact (messages : List Message) : Lines messages := by
  have octetsOf : messages.flatMap octets = Line.written (messages.map (Utf8.encode ·.body)) := by
    rw [Line.written, List.flatMap_map]
    exact List.flatMap_congr fun m _ => m.octets_eq
  have count : (Line.pieces (messages.flatMap octets)).length =
      (messages.map (·.breaks + 1)).sum := by
    clear octetsOf
    induction messages with
    | nil => rfl
    | cons m rest ih =>
      rw [List.flatMap_cons, octets_eq, List.append_assoc, List.singleton_append,
        Line.length_pieces_append_newline, count_body, ih, List.map_cons, List.sum_cons]
  refine ⟨fun m _ => ?_, count, fun h token htoken => ?_, fun h => ?_⟩
  · rw [octets_eq]
    exact ⟨List.getLast?_concat, by rw [List.count_append, count_body]; rfl⟩
  · have hpiece : Utf8.encode (auth token).body ∈ messages.map (Utf8.encode ·.body) :=
      List.mem_map.2 ⟨_, htoken, rfl⟩
    have hnone := Line.newline_notMem_of_mem_pieces (h ▸ hpiece)
    rw [← List.count_eq_zero, count_body] at hnone
    exact List.count_eq_zero.1 hnone
  · rw [octetsOf]
    refine Line.pieces_written fun piece hpiece => ?_
    obtain ⟨m, hm, rfl⟩ := List.mem_map.1 hpiece
    rw [← List.count_eq_zero, count_body]
    cases m with
    | request r => rfl
    | auth token => exact List.count_eq_zero.2 (h token hm)

/-- A registry of one daemon, with a token of two lines. -/
def twoLineRegistry : String :=
  "[[daemons]]\nname = \"d\"\naddress = \"tcp://h:1\"\nauth_token = \"a\\nb\"\n"

/-- The client of a registry shows its token on two lines. -/
theorem token_of_two_lines : ∃ registry entry client token,
    Registry.ofToml ⟨[]⟩ twoLineRegistry = .ok registry ∧ entry ∈ registry.daemons ∧
      Client.ofEntry entry = .ok client ∧ client.shownToken? = some token ∧
      (auth token).octets.count Line.newline = 2 ∧
      Line.pieces (auth token).octets = [Utf8.encode "AUTH a", Utf8.encode "b"] := by
  refine ⟨⟨[⟨"d", "tcp://h:1", "a\nb", true, none⟩]⟩, ⟨"d", "tcp://h:1", "a\nb", true, none⟩,
    ⟨"d", .tcp "h:1", "a\nb", {}⟩, "a\nb", ?_, List.mem_singleton_self _, ?_, ?_, ?_, ?_⟩
  · decide +kernel
  · decide +kernel
  · decide +kernel
  · decide +kernel
  · decide +kernel

end Message

end TaskWatch
