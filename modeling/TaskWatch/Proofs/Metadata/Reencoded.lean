import TaskWatch.Proofs.Metadata.Lines
import TaskWatch.Proofs.Metadata.Submission

/-!
# How deep metadata is followed

Metadata may stand in metadata as a text. `wrapped` puts a text into objects of one member each, one
inside the other, each the text of a member of the next. Every extractor looks at so many levels of
objects, and takes one level less into the document that it follows (`Follows`); so it finds what is
in a wrapped text up to its last level, and nothing below it (`Follows.wrapped`). That the other
places of a chain are tried first makes no difference, for nothing is there.

* `followed_eight_levels`: for the id, the label and the progress lines of a text that is wrapped in
  any number of documents.
-/

namespace TaskWatch.Metadata

/-- A text as it stands in objects of one member each, the outermost first. -/
def wrapped : List String → String → String
  | [], text => text
  | key :: keys, text => (Json.object [(key, .string (wrapped keys text))]).text

/-! ## Objects of one member -/

theorem decodeObject?_string (key text : String) :
    decodeObject? (Json.object [(key, .string text)]).text = some [(key, .string text)] :=
  decodeObject?_singleton key trivial rfl

theorem lookup?_self (key : String) (value : Json) : lookup? [(key, value)] key = some value :=
  lookup?_of_mem (List.nodup_singleton key) List.mem_cons_self

/-- Nothing is found under the other keys that are looked up. -/
theorem lookup?_other {key other : String} (value : Json) (hkey : key ∈ soughtKeys)
    (hother : other ∈ soughtKeys) (hne : key ≠ other) : lookup? [(key, value)] other = none := by
  refine lookup?_eq_none (List.forall_mem_singleton.2 ?_)
  rwa [foldKey_sought key hkey, foldKey_sought other hother]

/-! ## What an extractor follows -/

/-- A reading of objects that looks at so many levels of them: it finds nothing on no level, and in
an object whose only member is a document under one of its keys, it finds on the levels that are
left what it finds in the document. -/
structure Follows {α : Type} (keys : List String) (nothing : α) (read : Nat → Members → α) :
    Prop where
  nothing (members : Members) : read 0 members = nothing
  next {key stored : String} {inner : Members} (level : Nat) (hkey : key ∈ keys)
    (hinner : decodeObject? stored = some inner) :
    read (level + 1) [(key, .string stored)] = read level inner

/-- What is found in an object on the first level is found in its wrapped text if the levels go down
to it. -/
theorem Follows.wrapped {α : Type} {allowed : List String} {nothing found : α}
    {read : Nat → Members → α} (h : Follows allowed nothing read) {text : String} {start : Members}
    (hstart : decodeObject? text = some start) (hfound : ∀ level, read (level + 1) start = found)
    {keys : List String} (hkeys : ∀ key ∈ keys, key ∈ allowed) (levels : Nat) :
    ∃ outer, decodeObject? (wrapped keys text) = some outer ∧
      read levels outer = if keys.length < levels then found else nothing := by
  -- each document takes one level, so the claim is for any number of them
  induction keys generalizing levels with
  | nil =>
    refine ⟨start, hstart, ?_⟩
    cases levels with
    | zero => exact h.nothing start
    | succ level => exact hfound level
  | cons key keys ih =>
    obtain ⟨hkey, hrest⟩ := List.forall_mem_cons.1 hkeys
    refine ⟨_, decodeObject?_string key _, ?_⟩
    cases levels with
    | zero => exact h.nothing _
    | succ level =>
      obtain ⟨inner, hinner, hread⟩ := ih hrest level
      rw [h.next level hkey hinner, hread]
      simp only [List.length_cons, Nat.add_lt_add_iff_right]

/-! ## Chains -/

/-- What only one of some elements may give is what the first of them gives that gives anything. -/
theorem findSome?_of_only {α β : Type} {f : α → Option β} {l : List α} {a : α} (ha : a ∈ l)
    (h : ∀ b ∈ l, b ≠ a → f b = none) : l.findSome? f = f a := by
  cases hfound : l.findSome? f with
  | none => exact (List.findSome?_eq_none_iff.1 hfound a ha).symm
  | some found =>
    obtain ⟨b, hb, hgives⟩ := List.exists_of_findSome?_eq_some hfound
    by_cases hba : b = a
    · rw [← hba, hgives]
    · rw [h b hb hba] at hgives
      cases hgives

/-- A chain finds in an object of one member what its only step finds that looks up the key. -/
theorem runChain_singleton {chain : List Step} {step : Step} {key : String}
    (hsought : ∀ other ∈ chain, ∀ name ∈ other.keys, name ∈ soughtKeys) (hstep : step ∈ chain)
    (hkey : key ∈ step.keys) (honly : ∀ other ∈ chain, other ≠ step → key ∉ other.keys)
    (level : Nat) (value : Json) :
    runChain (m := Id) decodeObject? chain (level + 1) [(key, value)] =
      stepText? (runChain (m := Id) decodeObject? chain level) [(key, value)] step := by
  rw [runChain, runSteps_eq]
  refine findSome?_of_only hstep fun other hother hne => stepText?_eq_none fun name hname => ?_
  refine lookup?_other value (hsought step hstep key hkey) (hsought other hother name hname) ?_
  rintro rfl
  exact honly other hother hne hname

theorem sought_taskIdChain : ∀ step ∈ taskIdChain, ∀ name ∈ step.keys, name ∈ soughtKeys := by
  decide

theorem sought_labelChain : ∀ step ∈ labelChain, ∀ name ∈ step.keys, name ∈ soughtKeys := by
  decide

/-- A chain follows the documents under the keys that only its steps for documents look up. -/
theorem follows_runChain {chain : List Step} {keys : List String}
    (hsought : ∀ other ∈ chain, ∀ name ∈ other.keys, name ∈ soughtKeys)
    (hsteps : ∀ key ∈ keys, .reencoded key ∈ chain ∧
      ∀ other ∈ chain, other ≠ .reencoded key → key ∉ other.keys) :
    Follows keys none (runChain (m := Id) decodeObject? chain) where
  nothing _ := rfl
  next := by
    intro key stored inner level hkey hinner
    obtain ⟨hstep, honly⟩ := hsteps key hkey
    rw [runChain_singleton hsought hstep List.mem_cons_self honly, stepText?, lookup?_self]
    dsimp only
    rw [hinner, Option.bind_some]

/-- What a step of a chain finds under one of its own keys. -/
theorem runChain_direct {chain : List Step} {keys : List String} {key : String}
    (hsought : ∀ other ∈ chain, ∀ name ∈ other.keys, name ∈ soughtKeys)
    (hstep : .direct keys ∈ chain) (hkey : key ∈ keys)
    (honly : ∀ other ∈ chain, other ≠ .direct keys → key ∉ other.keys) (level : Nat)
    (text : String) :
    runChain (m := Id) decodeObject? chain (level + 1) [(key, .string text)] =
      Text.nonBlank? text := by
  rw [runChain_singleton hsought hstep hkey honly, stepText?, field?]
  have hnone : ∀ other ∈ keys, other ≠ key →
      (lookup? [(key, .string text)] other).bind textOf? = none := by
    intro other hother hne
    rw [lookup?_other _ (hsought _ hstep key hkey) (hsought _ hstep other hother) hne.symm]
    rfl
  rw [findSome?_of_only hkey hnone, lookup?_self]
  rfl

/-! ## Progress lines -/

theorem progressKeys_sought :
    ("progress" : String) ∈ soughtKeys ∧ ("async_task_metadata" : String) ∈ soughtKeys := by
  decide

theorem follows_gatherLines :
    Follows ["progress", "async_task_metadata"] [] (gatherLines (m := Id) decodeObject?) where
  nothing _ := rfl
  next := by
    intro key stored inner level hkey hinner
    obtain ⟨hprogress, hstored⟩ := progressKeys_sought
    have hdecoded : decodeObject? stored = (pure (some inner) : Id (Option Members)) := hinner
    rw [gatherLines_eq, storedLines]
    obtain rfl | hkey := List.mem_cons.1 hkey
    · rw [lookup?_self, lookup?_other _ hprogress hstored (by decide), Option.elim_some, valueLines,
        hdecoded]
      exact List.append_nil _
    · obtain rfl := List.mem_singleton.1 hkey
      rw [lookup?_self, lookup?_other _ hstored hprogress (by decide), Option.elim_none]
      dsimp only
      rw [hinner]
      rfl

theorem valueLines_textEntries (again : Members → Id (List String)) (texts : List String) :
    valueLines (m := Id) decodeObject? again (.array (texts.map textEntry)) =
      texts.filterMap Text.nonBlank? := by
  rw [valueLines, List.filterMap_map]
  exact List.filterMap_congr fun text _ => by rw [Function.comp_apply, entryLine?_textEntry]

theorem gatherLines_textEntries (texts : List String) (level : Nat) :
    gatherLines (m := Id) decodeObject? (level + 1)
      [("progress", .array (texts.map textEntry))] = texts.filterMap Text.nonBlank? := by
  obtain ⟨hprogress, hstored⟩ := progressKeys_sought
  rw [gatherLines_eq, storedLines, lookup?_self, lookup?_other _ hprogress hstored (by decide),
    Option.elim_some, valueLines_textEntries]
  exact List.append_nil _

theorem integral_textEntries (texts : List String) :
    (Json.array (texts.map textEntry)).Integral :=
  Json.integralItems_of_forall (List.forall_mem_map.2 fun _ _ => ⟨trivial, trivial⟩)

theorem tidy_textEntries (texts : List String) (levels : Nat) :
    (Json.array (texts.map textEntry)).Tidy (levels + 2) := by
  show Json.TidyItems _ (levels + 1)
  induction texts with
  | nil => trivial
  | cons text rest ih => exact ⟨⟨trivial, nofun, trivial⟩, ih⟩

/-! ## The three extractors -/

theorem lt_levels {α : Type} (n : Nat) (found nothing : α) :
    (if n < levels then found else nothing) = if n ≤ 8 then found else nothing :=
  if_congr Nat.lt_succ_iff rfl rfl

/-- What a chain finds of a text that is the only member of an object that is wrapped. -/
theorem runChain_wrapped {chain : List Step} {direct : List String} (allowed keys : List String)
    (key : String) {text : String}
    (hsought : ∀ other ∈ chain, ∀ name ∈ other.keys, name ∈ soughtKeys)
    (hsteps : ∀ key ∈ allowed, .reencoded key ∈ chain ∧
      ∀ other ∈ chain, other ≠ .reencoded key → key ∉ other.keys)
    (hstep : .direct direct ∈ chain) (hkey : key ∈ direct)
    (honly : ∀ other ∈ chain, other ≠ .direct direct → key ∉ other.keys)
    (hkeys : ∀ key ∈ keys, key ∈ allowed) (htext : Text.isBlank text = false) :
    ∃ outer, decodeObject? (wrapped keys (Json.object [(key, .string text)]).text) = some outer ∧
      runChain (m := Id) decodeObject? chain levels outer =
        if keys.length ≤ 8 then some (Text.trim text) else none := by
  have hfound (level : Nat) : runChain (m := Id) decodeObject? chain (level + 1)
      [(key, .string text)] = some (Text.trim text) := by
    rw [runChain_direct hsought hstep hkey honly, Text.nonBlank?_of_isBlank htext]
  rw [← lt_levels]
  exact (follows_runChain hsought hsteps).wrapped (decodeObject?_string key text) hfound hkeys levels

theorem plainTaskId?_wrapped {keys : List String}
    (hkeys : ∀ key ∈ keys, key = "metadata" ∨ key = "async_task_metadata") {text : String}
    (htext : Text.isBlank text = false) :
    plainTaskId? (wrapped keys (Json.object [("task_id", .string text)]).text) =
      if keys.length ≤ 8 then some (Text.trim text) else none := by
  obtain ⟨outer, houter, hread⟩ := runChain_wrapped ["metadata", "async_task_metadata"]
    keys "task_id" sought_taskIdChain (by decide) List.mem_cons_self (by decide) (by decide)
    (fun key hkey => by simpa using hkeys key hkey) htext
  rw [plainTaskId?, taskIdIn?, houter]
  exact hread

theorem plainLabel?_wrapped (n : Nat) {text : String} (htext : Text.isBlank text = false) :
    plainLabel? (wrapped (.replicate n "async_task_metadata")
        (Json.object [("progress_label", .string text)]).text) =
      if n ≤ 8 then some (Text.trim text) else none := by
  obtain ⟨outer, houter, hread⟩ := runChain_wrapped ["async_task_metadata"]
    (.replicate n "async_task_metadata") "progress_label" sought_labelChain (by decide)
    List.mem_cons_self (by decide) (by decide)
    (fun key hkey => List.mem_singleton.2 (List.eq_of_mem_replicate hkey)) htext
  rw [List.length_replicate] at hread
  rw [plainLabel?, labelIn?, houter]
  exact hread

theorem plainLines_wrapped {keys texts : List String}
    (hkeys : ∀ key ∈ keys, key = "progress" ∨ key = "async_task_metadata")
    (htexts : ∀ text ∈ texts, Text.isBlank text = false) :
    plainLines (wrapped keys (Json.object [("progress", .array (texts.map textEntry))]).text) =
      if keys.length ≤ 8 then (texts.map Text.trim).drop (texts.length - 10) else [] := by
  have hdecoded := decodeObject?_singleton "progress" (integral_textEntries texts)
    (Document.keep?_ofJson _ (tidy_textEntries texts 124))
  obtain ⟨outer, houter, hread⟩ := follows_gatherLines.wrapped hdecoded
    (gatherLines_textEntries texts) (fun key hkey => by simpa using hkeys key hkey) levels
  have hkept : texts.filterMap Text.nonBlank? = texts.map Text.trim := by
    rw [← List.filterMap_eq_map]
    exact List.filterMap_congr fun text htext => Text.nonBlank?_of_isBlank (htexts text htext)
  have htrimmed : ∀ line ∈ texts.map Text.trim, Text.nonBlank? line = some line := by
    rw [← hkept]
    intro line hline
    obtain ⟨text, -, htext⟩ := List.mem_filterMap.1 hline
    exact Text.nonBlank?_of_eq_some htext
  rw [hkept, lt_levels] at hread
  split
  · next hle =>
    rw [if_pos hle] at hread
    rw [plainLines_eq houter hread htrimmed, List.length_map]
  · next hlt =>
    rw [if_neg hlt] at hread
    rw [plainLines_eq houter hread nofun]
    rfl

/-- Metadata that stands in metadata as a text is followed eight levels deep, by a parser that was
asked anything before: up to there everything is found, and nothing below. -/
theorem followed_eight_levels (questions : List Question) :
    (∀ (keys : List String) (text : String),
      (∀ key ∈ keys, key = "metadata" ∨ key = "async_task_metadata") → Text.isBlank text = false →
      (taskIdIn? Parser.decode (wrapped keys (Json.object [("task_id", .string text)]).text)
          (Parser.asked questions).2).1 =
        if keys.length ≤ 8 then some (Text.trim text) else none) ∧
      (∀ (n : Nat) (text : String), Text.isBlank text = false →
        (labelIn? Parser.decode (wrapped (.replicate n "async_task_metadata")
            (Json.object [("progress_label", .string text)]).text) (Parser.asked questions).2).1 =
          if n ≤ 8 then some (Text.trim text) else none) ∧
      ∀ keys texts : List String,
        (∀ key ∈ keys, key = "progress" ∨ key = "async_task_metadata") →
        (∀ text ∈ texts, Text.isBlank text = false) →
        (progressLinesIn Parser.decode
            (wrapped keys (Json.object [("progress", .array (texts.map textEntry))]).text)
            (Parser.asked questions).2).1 =
          if keys.length ≤ 8 then (texts.map Text.trim).drop (texts.length - 10) else [] := by
  refine ⟨fun keys text hkeys htext => ?_, fun n text htext => ?_, fun keys texts hkeys htexts => ?_⟩
  · rw [(Parser.gives_taskIdIn? _).asked, plainTaskId?_wrapped hkeys htext]
  · rw [(Parser.gives_labelIn? _).asked, plainLabel?_wrapped n htext]
  · rw [(Parser.gives_progressLinesIn _).asked, plainLines_wrapped hkeys htexts]

/-- An id on the eighth level is found, a label on the ninth is not, and of eleven lines the last ten
are. -/
theorem followed_from_eighth :
    (taskIdIn? Parser.decode (wrapped (.replicate 8 "metadata")
        (Json.object [("task_id", .string " t ")]).text) (Parser.asked [.label "\x7b\x7d"]).2).1 =
      some "t" ∧
      (labelIn? Parser.decode (wrapped (.replicate 9 "async_task_metadata")
        (Json.object [("progress_label", .string "l")]).text) (Parser.asked []).2).1 = none ∧
      (progressLinesIn Parser.decode (wrapped ["progress", "async_task_metadata"]
        (Json.object [("progress", .array (["a", " b", "c", "d", "e", "f", "g", "h", "i", "j",
          "k "].map textEntry))]).text) (Parser.asked []).2).1 =
        ["b", "c", "d", "e", "f", "g", "h", "i", "j", "k"] := by
  refine ⟨?_, ?_, ?_⟩
  · rw [(followed_eight_levels _).1 _ _ (fun _ h => .inl (List.eq_of_mem_replicate h)) (by decide)]
    rfl
  · rw [(followed_eight_levels _).2.1 _ _ (by decide)]
    rfl
  · rw [(followed_eight_levels _).2.2 _ _ (by decide) (by decide)]
    decide

end TaskWatch.Metadata
