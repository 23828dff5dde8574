import TaskWatch.Proofs.Call.Converging
import TaskWatch.Proofs.Call.Told
import TaskWatch.Proofs.Metadata.Reencoded

/-!
# Calls that are seeded from metadata

A call learns of the progress of its task twice: first lines come from the metadata of its result,
and a snapshot brings the task itself. Both show an entry by the same line
(`Metadata.entryLine?_readEntry`), so a call that was seeded from metadata keeps its lines when the
snapshot comes, as long as both carry the same entries (`CallSession.seeded_alike`).

Metadata may hold the metadata of another task as a text, and the lines of that are gathered too;
so metadata that `Carries` some entries must not have lines stored there.
-/

namespace TaskWatch

namespace Metadata

/-- An object carries the progress of a task: its member `progress` is what is read of the entries
as they go over the wire, and the document that is stored in it, if there is one, adds no lines. -/
structure Carries (members : Members) (entries : List Progress) : Prop where
  progress : Json.get? members "progress" = Json.ofText? (wireEntries entries).text
  stored : storedLines (gatherLines (m := Id) decodeObject? 8) members = []

/-- An object of nothing but the entries carries them. -/
theorem exists_carries (entries : List Progress) : ∃ members,
    decodeObject? (Json.object [("progress", wireEntries entries)]).text = some members ∧
      Carries members entries := by
  refine ⟨_, decodeObject?_singleton "progress" (integral_wireEntries entries)
    (keep?_wireEntries entries 124), ?_, ?_⟩
  · rw [ofText?_wireEntries]
    rfl
  · obtain ⟨hprogress, hother⟩ := progressKeys_sought
    rw [storedLines, lookup?_other _ hprogress hother (by decide)]

variable {members : Members} {entries : List Progress}

/-- The lines that an object gives are those that show the entries it carries. -/
theorem Carries.gatherLines (h : Carries members entries)
    (hshown : ∀ p ∈ entries, Text.isBlank p.text = false ∨ Text.isBlank p.status = false) :
    gatherLines (m := Id) decodeObject? levels members =
      entries.filterMap Progress.displayLine := by
  have hprogress : lookup? members "progress" =
      some (.array (entries.map (readEntry ·.toWire))) := by
    rw [lookup?, h.progress, ofText?_wireEntries]
  have hlines : valueLines (m := Id) decodeObject? (Metadata.gatherLines decodeObject? 8)
      (.array (entries.map (readEntry ·.toWire))) = entries.filterMap Progress.displayLine := by
    rw [valueLines, List.filterMap_map]
    exact List.filterMap_congr fun p hp => entryLine?_readEntry (hshown p hp)
  rw [levels, gatherLines_eq, h.stored, hprogress, Option.elim_some, hlines, List.append_nil]

/-- The last lines that a text gives, when the object that it spells carries some entries. -/
theorem Carries.plainLines {text : String} (htext : decodeObject? text = some members)
    (h : Carries members entries)
    (hshown : ∀ p ∈ entries, Text.isBlank p.text = false ∨ Text.isBlank p.status = false) :
    plainLines text = logEnd (entries.filterMap Progress.displayLine) 10 :=
  plainLines_eq htext (h.gatherLines hshown) (trimmed_displayLines entries)

end Metadata

namespace CallState

/-- A new call takes over all lines that fit. -/
theorem lines_ensureInitial_new (callId : String) {capacity : Nat} {lines : List String}
    (htrimmed : Trimmed lines) (hfit : lines.length ≤ max capacity 1) :
    ((CallState.new callId capacity).ensureInitial lines).lines = lines := by
  have hkept : replacedLog [] lines = lines := by
    rw [replacedLog, (List.filterMap_congr htrimmed).trans List.filterMap_some]
    cases lines <;> rfl
  have hends := (Ends.new callId capacity).edit (.seed lines)
  have hcapacity : ((CallState.new callId capacity).ensureInitial lines).capacity =
      max capacity 1 := (Learns.ensureInitial _ _).capacity
  have hall : logEnd lines (max capacity 1) = lines := by
    rw [logEnd, Nat.sub_eq_zero_of_le hfit, List.drop_zero]
  have hlines : ((CallState.new callId capacity).ensureInitial lines).lines =
      logEnd (replacedLog [] lines) _ := hends.lines
  rw [hlines, hkept]
  show logEnd lines ((CallState.new callId capacity).ensureInitial lines).capacity = lines
  rw [hcapacity, hall]

/-- What a call and its result say reaches the lines only as first lines. -/
theorem lines_absorb (s : CallState) (catalog : Catalog) (call : ToolCall) (result : ToolResult) :
    (s.absorb catalog call result).lines =
      (s.ensureInitial (Metadata.plainLines result.metadata)).lines := by
  have hreading : (CallReading.ofCall call result).lines = Metadata.plainLines result.metadata := by
    rw [CallReading.ofCall_eq]
  rw [absorb_eq, ← hreading]
  dsimp only
  refine lines_edit_congr ?_ ?_ (.seed _)
  · cases (CallReading.ofCall call result).offer? catalog call result with
    | none => rfl
    | some o => rw [Option.elim_some, offer_eq]
  · cases (CallReading.ofCall call result).offer? catalog call result with
    | none => rfl
    | some o => rw [Option.elim_some, offer_eq]

end CallState

namespace CallSession

open CallState Metadata

/-- Entries look the same in metadata and in a snapshot: metadata that carries them gives, with a
parser that was asked anything before, the lines that a call has after the snapshot, whatever was
done with it before; and a new call that reads the metadata has the same lines. -/
theorem seeded_alike {entries : List Progress} (hne : entries ≠ [])
    (hshown : ∀ p ∈ entries, Text.isBlank p.text = false ∨ Text.isBlank p.status = false) :
    (∃ members, decodeObject? (Json.object [("progress", wireEntries entries)]).text =
        some members ∧ Carries members entries) ∧
      ∀ text members, decodeObject? text = some members → Carries members entries →
        ∀ (callId : String) (tokens : Tokens) (actions : List Action) (catalog : Catalog)
          (event : Event) (task : Task), event.kind = .snapshot → event.task = some task →
          task.progress = entries →
          let adopted := ((run (.new callId 10 tokens) actions).call.applyEvent catalog event).2.lines
          (∀ questions, (progressLinesIn Parser.decode text (Parser.asked questions).2).1 = adopted) ∧
            ∀ callId' catalog' call result, result.metadata = text →
              ((CallState.new callId' 10).absorb catalog' call result).lines = adopted := by
  refine ⟨exists_carries entries, ?_⟩
  intro text members htext hcarries callId tokens actions catalog event task hkind htask hprogress
  have hends : Ends (logged actions) (run (.new callId 10 tokens) actions).call :=
    ends_run (.new callId 10) actions
  have hevent : event.shown = entries.filterMap Progress.displayLine := by
    rw [Event.shown, htask, Option.toList_some, List.flatMap_singleton, hprogress]
  -- a snapshot with nothing to show would leave the lines that were there
  have hsome : event.shown ≠ [] := by
    obtain ⟨p, rest, rfl⟩ := List.exists_cons_of_ne_nil hne
    obtain ⟨line, hline⟩ := Progress.exists_displayLine (hshown p List.mem_cons_self)
    rw [hevent, List.filterMap_cons_some hline]
    exact List.cons_ne_nil _ _
  have hadopted : ((run (.new callId 10 tokens) actions).call.applyEvent catalog event).2.lines =
      plainLines text := by
    rw [hends.lines_snapshot catalog hkind hsome, capacity_run, hcarries.plainLines htext hshown,
      hevent]
    rfl
  intro adopted
  refine ⟨fun questions => ?_, fun callId' catalog' call result hmetadata => ?_⟩
  · rw [(Parser.gives_progressLinesIn text).asked questions]
    exact hadopted.symm
  · have hfit : (plainLines text).length ≤ max 10 1 := by
      rw [hcarries.plainLines htext hshown]
      exact length_logEnd _ _
    have htrimmed : Trimmed (plainLines text) := by
      rw [hcarries.plainLines htext hshown]
      exact fun line hline => trimmed_displayLines entries line (List.mem_of_mem_drop hline)
    rw [lines_absorb, hmetadata, lines_ensureInitial_new callId' htrimmed hfit]
    exact hadopted.symm

/-- A call that was queued when the snapshot came, and a new one that reads the metadata. -/
theorem seeded_like_queued :
    let entries : List Progress := [
      { text := "half", status := "running" }, { timestamp := ⟨60, 0⟩, status := "waiting" }]
    let event : Event := { kind := .snapshot, task := some { id := "t", progress := entries } }
    let metadata := (Json.object [("progress", wireEntries entries)]).text
    (entries ≠ [] ∧
        ∀ p ∈ entries, Text.isBlank p.text = false ∨ Text.isBlank p.status = false) ∧
      ((CallState.new "late" 10).absorb {} {} { metadata := metadata }).lines =
        ((run (.new "early" 10 {}) [.appendLine "queued"]).call.applyEvent {} event).2.lines := by
  intro entries event metadata
  have hne : entries ≠ [] := List.cons_ne_nil _ _
  have hshown : ∀ p ∈ entries, Text.isBlank p.text = false ∨ Text.isBlank p.status = false := by
    decide +kernel
  obtain ⟨⟨members, htext, hcarries⟩, halike⟩ := seeded_alike hne hshown
  exact ⟨⟨hne, hshown⟩,
    (halike metadata members htext hcarries "early" {} _ {} event _ rfl rfl rfl).2 "late" {} {} _ rfl⟩

/-- The lines of metadata that is stored in the metadata come after its own. -/
theorem stored_lines_added :
    let entries : List Progress := [{ text := "half" }]
    let stored := (Json.object [("progress", wireEntries [{ text := "queued" }])]).text
    let members : Members :=
      [("async_task_metadata", .string stored), ("progress", wireEntries entries)]
    let event : Event := { kind := .snapshot, task := some { progress := entries } }
    (entries ≠ [] ∧ ∀ p ∈ entries, Text.isBlank p.text = false) ∧
      Json.get? members "progress" = some (wireEntries entries) ∧
      (progressLinesIn Parser.decode (Json.object members).text {}).1 = ["half", "queued"] ∧
      ((CallState.new "c" 10).applyEvent {} event).2.lines = ["half"] := by
  intro entries stored members event
  have hshown : ∀ p ∈ entries, Text.isBlank p.text = false := by decide +kernel
  exact ⟨⟨List.cons_ne_nil _ _, hshown⟩, rfl, by decide +kernel, by decide +kernel⟩

end CallSession

end TaskWatch
