import TaskWatch.Proofs.Entries
import TaskWatch.Proofs.Metadata.Search

/-!
# The memory of a parser cannot be seen

A parser is *sound* when everything it remembers is right: under each trimmed text that is not
blank, once, the object that the text spells. A sound parser decodes like one that remembers nothing
(`Parser.Sound.decode`), and decoding keeps it sound and only adds to what it remembers. Along a
search (`Metadata.Search`) that carries over to everything that can be asked, and to every moment in
between (`Search.moments`).

* `Parser.Sound.run`: a search finds what it finds without a memory;
* `Search.run_again`: a search that was run before adds nothing;
* `Parser.memory_invisible`: both, for all questions to one parser.
-/

namespace TaskWatch.Metadata

namespace Parser

/-- Everything that a parser remembers is right. -/
structure Sound (parser : Parser) : Prop where
  trimmed : ∀ entry ∈ parser.known, Text.trim entry.1 = entry.1 ∧ entry.1 ≠ ""
  /-- A text stands with the object that it spells, and with none if it spells no object. -/
  object : ∀ entry ∈ parser.known, ∀ members,
    entry.2 = some members ↔ Json.ofText? entry.1 = some (.object members)
  once : (parser.known.map (·.1)).Nodup

/-- A parser that remembers what another one does, as it does, and maybe more. -/
def Extends (later earlier : Parser) : Prop := earlier.known <+: later.known

/-- Whether a text needs no decoding any more. -/
def Knows (parser : Parser) (text : String) : Prop :=
  Text.trim text = "" ∨ Text.trim text ∈ parser.known.map (·.1)

variable {p q : Parser}

theorem sound_empty : Sound {} where
  trimmed := nofun
  object := nofun
  once := .nil

theorem Knows.mono {text : String} (h : p.Knows text) (hq : q.Extends p) : q.Knows text :=
  h.imp id fun hmem => (hq.map _).subset hmem

theorem members?_eq_some_iff {value : Option Json} {members : Members} :
    value.bind Json.members? = some members ↔ value = some (.object members) := by
  cases value with
  | none => simp
  | some value => cases value <;> simp [Json.members?]

/-! ## One text -/

theorem decode_blank {text : String} (h : Text.trim text = "") (p : Parser) :
    decode text p = (none, p) := by
  rw [decode]
  exact if_pos h

theorem decode_remembered {text : String} (h : Text.trim text ≠ "") {found : Option Members}
    (hfound : p.remembered? (Text.trim text) = some found) : decode text p = (found, p) := by
  rw [decode]
  dsimp only
  rw [if_neg h, hfound]

theorem decode_new {text : String} (h : Text.trim text ≠ "")
    (hnew : p.remembered? (Text.trim text) = none) :
    decode text p = (decodeObject? (Text.trim text),
      ⟨p.known ++ [(Text.trim text, decodeObject? (Text.trim text))]⟩) := by
  rw [decode]
  dsimp only
  rw [if_neg h, hnew]

/-- A text is decoded by its trimmed form. -/
theorem decodeObject?_trim (text : String) : decodeObject? (Text.trim text) = decodeObject? text := by
  rw [decodeObject?, decodeObject?, Text.trim_trim]

theorem decodeObject?_blank {text : String} (h : Text.trim text = "") : decodeObject? text = none := by
  rw [decodeObject?, h]
  rfl

theorem remembered?_eq_none {text : String} :
    p.remembered? text = none ↔ text ∉ p.known.map (·.1) := by
  rw [remembered?, Option.map_eq_none_iff, find?_key_eq_none]

theorem Sound.remembered (h : p.Sound) {text : String} {found : Option Members}
    (hfound : p.remembered? text = some found) : found = decodeObject? text := by
  rw [remembered?, Option.map_eq_some_iff] at hfound
  obtain ⟨⟨key, value⟩, hfind, rfl⟩ := hfound
  obtain rfl : key = text := beq_iff_eq.1 (List.find?_eq_some_iff_append.1 hfind).1
  have hmem := (find?_key h.once).1 hfind
  refine Option.ext fun members => ?_
  rw [decodeObject?, (h.trimmed _ hmem).1, members?_eq_some_iff]
  exact h.object _ hmem members

theorem decode_grows (text : String) (p : Parser) : (decode text p).2.Extends p := by
  by_cases hblank : Text.trim text = ""
  · rw [decode_blank hblank]
    exact List.prefix_rfl
  · cases hfound : p.remembered? (Text.trim text) with
    | some found =>
      rw [decode_remembered hblank hfound]
      exact List.prefix_rfl
    | none =>
      rw [decode_new hblank hfound]
      exact List.prefix_append _ _

theorem knows_decode (text : String) (p : Parser) : (decode text p).2.Knows text := by
  by_cases hblank : Text.trim text = ""
  · exact .inl hblank
  · right
    cases hfound : p.remembered? (Text.trim text) with
    | some found =>
      rw [decode_remembered hblank hfound]
      refine Decidable.not_not.1 fun hnot => ?_
      rw [remembered?_eq_none.2 hnot] at hfound
      cases hfound
    | none =>
      rw [decode_new hblank hfound]
      simp

theorem decode_known {text : String} (h : p.Knows text) : (decode text p).2 = p := by
  by_cases hblank : Text.trim text = ""
  · rw [decode_blank hblank]
  · cases hfound : p.remembered? (Text.trim text) with
    | some found => rw [decode_remembered hblank hfound]
    | none => exact absurd (h.resolve_left hblank) (remembered?_eq_none.1 hfound)

/-- A sound parser decodes like one that remembers nothing. -/
theorem Sound.decode (h : p.Sound) (text : String) : (Parser.decode text p).1 = decodeObject? text := by
  by_cases hblank : Text.trim text = ""
  · rw [decode_blank hblank, decodeObject?_blank hblank]
  · cases hfound : p.remembered? (Text.trim text) with
    | some found => rw [decode_remembered hblank hfound, h.remembered hfound, decodeObject?_trim]
    | none => rw [decode_new hblank hfound, decodeObject?_trim]

theorem Sound.learn (h : p.Sound) (text : String) : (Parser.decode text p).2.Sound := by
  by_cases hblank : Text.trim text = ""
  · rwa [decode_blank hblank]
  · cases hfound : p.remembered? (Text.trim text) with
    | some found => rwa [decode_remembered hblank hfound]
    | none =>
      rw [decode_new hblank hfound]
      have hnew := remembered?_eq_none.1 hfound
      refine ⟨?_, ?_, ?_⟩
      · rw [List.forall_mem_append, List.forall_mem_singleton]
        exact ⟨h.trimmed, Text.trim_trim text, hblank⟩
      · rw [List.forall_mem_append, List.forall_mem_singleton]
        refine ⟨h.object, fun members => ?_⟩
        rw [decodeObject?, Text.trim_trim, members?_eq_some_iff]
      · rw [List.map_append, List.map_singleton, ← List.concat_eq_append, List.nodup_concat]
        exact ⟨hnew, h.once⟩

end Parser

/-! ## A search -/

namespace Search

variable {α : Type}

/-- What a parser is from the start of a search to its end. -/
def moments : Search α → Parser → List Parser
  | done _, p => [p]
  | decode text next, p =>
    p :: (next (Parser.decode text p).1).moments (Parser.decode text p).2

variable {p q : Parser}

theorem run_decode (text : String) (next : Option Members → Search α) (p : Parser) :
    (decode text next).run Parser.decode p =
      (next (Parser.decode text p).1).run Parser.decode (Parser.decode text p).2 := rfl

theorem run_grows (x : Search α) (p : Parser) : (x.run Parser.decode p).2.Extends p := by
  induction x generalizing p with
  | done result => exact List.prefix_rfl
  | decode text next ih =>
    rw [run_decode]
    exact (Parser.decode_grows text p).trans (ih _ _)

theorem getLast?_moments (x : Search α) (p : Parser) :
    (x.moments p).getLast? = some (x.run Parser.decode p).2 := by
  induction x generalizing p with
  | done result => rfl
  | decode text next ih => rw [run_decode, moments, List.getLast?_cons, ih, Option.getD_some]

theorem moments_grow (x : Search α) (p : Parser) : ∀ moment ∈ x.moments p, moment.Extends p := by
  induction x generalizing p with
  | done result => exact List.forall_mem_singleton.2 List.prefix_rfl
  | decode text next ih =>
    exact List.forall_mem_cons.2 ⟨List.prefix_rfl, fun moment hmoment =>
      (Parser.decode_grows text p).trans (ih _ _ moment hmoment)⟩

theorem pairwise_moments (x : Search α) (p : Parser) :
    (x.moments p).Pairwise fun earlier later => later.Extends earlier := by
  induction x generalizing p with
  | done result => exact List.pairwise_singleton _ _
  | decode text next ih =>
    exact List.pairwise_cons.2 ⟨fun moment hmoment =>
      (Parser.decode_grows text p).trans (moments_grow _ _ moment hmoment), ih _ _⟩

/-- A search that a parser has run before, whatever it has decoded since, adds nothing. -/
theorem run_again (x : Search α) (hp : p.Sound) (hq : q.Sound)
    (hextends : q.Extends (x.run Parser.decode p).2) : (x.run Parser.decode q).2 = q := by
  induction x generalizing p with
  | done result => rfl
  | decode text next ih =>
    rw [run_decode] at hextends
    have hknows : q.Knows text :=
      (Parser.knows_decode text p).mono ((run_grows _ _).trans hextends)
    have hfound : (Parser.decode text q).1 = (Parser.decode text p).1 :=
      (hq.decode text).trans (hp.decode text).symm
    rw [run_decode, Parser.decode_known hknows, hfound]
    exact ih _ (hp.learn text) hextends

end Search

namespace Parser

variable {α : Type} {p : Parser}

/-- A search finds the same with a memory as without one. -/
theorem Sound.run (h : p.Sound) (x : Search α) :
    (x.run Parser.decode p).1 = x.run (m := Id) decodeObject? := by
  induction x generalizing p with
  | done result => rfl
  | decode text next ih =>
    rw [Search.run_decode, ih _ (h.learn text), h.decode text]
    rfl

theorem Sound.moments (h : p.Sound) (x : Search α) : ∀ moment ∈ x.moments p, moment.Sound := by
  induction x generalizing p with
  | done result => exact List.forall_mem_singleton.2 h
  | decode text next ih => exact List.forall_mem_cons.2 ⟨h, ih _ (h.learn text)⟩

theorem Sound.after (h : p.Sound) (x : Search α) : (x.run Parser.decode p).2.Sound :=
  h.moments x _ (List.mem_of_getLast? (x.getLast?_moments p))

/-! ## All questions -/

/-- The answers of a new parser to some questions, and the parser afterwards. -/
def asked (questions : List Question) : List Answer × Parser :=
  Question.answers decode questions {}

/-- What a new parser is, moment by moment, while it is asked some questions. -/
def history (questions : List Question) : List Parser :=
  (Question.answers Search.look questions).moments {}

theorem Sound.answer (h : p.Sound) (question : Question) :
    (question.answer Parser.decode p).1 = (question.answer Parser.decode {}).1 := by
  rw [question.answer_eq_run, h.run, sound_empty.run]

theorem Sound.answers (h : p.Sound) (questions : List Question) :
    (Question.answers Parser.decode questions p).1 =
      questions.map fun question => (question.answer Parser.decode {}).1 := by
  induction questions generalizing p with
  | nil => rfl
  | cons question rest ih =>
    have hafter : (question.answer Parser.decode p).2.Sound := by
      rw [question.answer_eq_run]
      exact h.after _
    have hcons : (Question.answers Parser.decode (question :: rest) p).1 =
        (question.answer Parser.decode p).1 ::
          (Question.answers Parser.decode rest (question.answer Parser.decode p).2).1 := rfl
    rw [hcons, List.map_cons, h.answer question, ih hafter]

/-- Some sound parser was asked each of the questions, and what it knew then is known in the end. -/
theorem Sound.asked (h : p.Sound) {questions : List Question} {question : Question}
    (hquestion : question ∈ questions) :
    ∃ q : Parser, q.Sound ∧
      (Question.answers Parser.decode questions p).2.Extends (question.answer Parser.decode q).2 := by
  induction questions generalizing p with
  | nil => cases hquestion
  | cons first rest ih =>
    have hcons : (Question.answers Parser.decode (first :: rest) p).2 =
        (Question.answers Parser.decode rest (first.answer Parser.decode p).2).2 := rfl
    have hafter : (first.answer Parser.decode p).2.Sound := by
      rw [first.answer_eq_run]
      exact h.after _
    rw [hcons]
    obtain rfl | hrest := List.mem_cons.1 hquestion
    · refine ⟨p, h, ?_⟩
      rw [Question.answers_eq_run]
      exact Search.run_grows _ _
    · exact ih hafter hrest

/-- The memory of a parser cannot be seen in its answers, it is right at every moment, it only ever
grows, and a question that was asked before adds nothing to it. -/
theorem memory_invisible (questions : List Question) :
    (asked questions).1 = questions.map (fun question => (question.answer decode {}).1) ∧
      (∀ moment ∈ history questions, moment.Sound) ∧
      (history questions).Pairwise (fun earlier later => earlier.known <+: later.known) ∧
      (history questions).getLast? = some (asked questions).2 ∧
      ∀ question ∈ questions,
        (question.answer decode (asked questions).2).2 = (asked questions).2 := by
  have hlast : (history questions).getLast? = some (asked questions).2 := by
    rw [asked, Question.answers_eq_run]
    exact Search.getLast?_moments _ _
  have hsound : ∀ moment ∈ history questions, moment.Sound := sound_empty.moments _
  refine ⟨sound_empty.answers questions, hsound, Search.pairwise_moments _ _, hlast,
    fun question hquestion => ?_⟩
  obtain ⟨q, hq, hextends⟩ := sound_empty.asked hquestion
  have hend : (asked questions).2.Sound := hsound _ (List.mem_of_getLast? hlast)
  rw [question.answer_eq_run] at hextends ⊢
  exact Search.run_again _ hq hend hextends

end Parser

end TaskWatch.Metadata
