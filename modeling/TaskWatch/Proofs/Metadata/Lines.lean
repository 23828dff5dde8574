import TaskWatch.Proofs.Json.Kept
import TaskWatch.Proofs.Metadata.Lookup
import TaskWatch.Proofs.Metadata.Plain
import TaskWatch.Proofs.Text.NonBlank

/-!
# Progress lines in metadata

The lines of an object are those of its progress and those of the document that is stored in it
(`gatherLines_eq`); the last of them are what a text gives (`plainLines_eq`).

The names of the fields of an entry differ up to case and blanks, and none is like the other name
that a text is looked for under. So the line of an entry is that of the texts in its fields `status`
and `text` (`entryLine?_record`), whichever of its fields are there. Entries are written with their
fields in the order of declaration and read with their names ascending (`ofText?_wireEntries`), and
an entry with a text or a status has the same line either way (`entryLine?_readEntry`).
-/

namespace TaskWatch.Metadata

/-! ## Lines read without a memory -/

/-- What is found with `again` in the document that is stored in an object. -/
def storedLines (again : Members → List String) (members : Members) : List String :=
  match lookup? members "async_task_metadata" with
  | some (.string text) => (decodeObject? text).elim [] again
  | _ => []

/-- The lines of an object are those of its progress and those of the document stored in it. -/
theorem gatherLines_eq (level : Nat) (members : Members) :
    gatherLines (m := Id) decodeObject? (level + 1) members =
      ((lookup? members "progress").elim [] (valueLines (m := Id) decodeObject?
          (gatherLines (m := Id) decodeObject? level)) : List String) ++
        storedLines (gatherLines (m := Id) decodeObject? level) members := by
  rw [gatherLines, storedLines]
  -- what is found further down is of no account here, and must not be unfolded
  generalize gatherLines (m := Id) decodeObject? level = again
  generalize valueLines (m := Id) decodeObject? again = own
  generalize lookup? members "progress" = value
  generalize lookup? members "async_task_metadata" = stored
  cases stored with
  | none =>
    rw [List.append_nil]
    cases value <;> rfl
  | some stored =>
    cases stored with
    | string text =>
      dsimp only
      generalize decodeObject? text = inner
      cases inner with
      | none =>
        rw [Option.elim_none, List.append_nil]
        cases value <;> rfl
      | some inner => cases value <;> rfl
    | _ =>
      rw [List.append_nil]
      cases value <;> rfl

/-- The last lines in a text are the last of those of its object, which need no trimming. -/
theorem plainLines_eq {text : String} {members : Members} {lines : List String}
    (htext : decodeObject? text = some members)
    (hlines : gatherLines (m := Id) decodeObject? levels members = lines)
    (htrimmed : ∀ line ∈ lines, Text.nonBlank? line = some line) :
    plainLines text = lines.drop (lines.length - 10) := by
  have hkept : lines.filterMap Text.nonBlank? = lines :=
    (List.filterMap_congr htrimmed).trans List.filterMap_some
  have hread : plainLines text = normalizeLines lines lineCapacity := by
    rw [plainLines, progressLinesIn, htext, ← hlines]
    rfl
  rw [hread, normalizeLines, hkept]
  rfl

/-! ## The line of an entry -/

/-- The names of the fields of a progress entry, ascending. -/
def entryNames : List String := ["metadata", "status", "text", "timestamp"]

theorem foldKey_entryName : ∀ key ∈ "message" :: entryNames, foldKey key = key := by
  decide +kernel

theorem map_foldKey_entryNames : entryNames.map foldKey = entryNames :=
  (List.map_congr_left fun name hname => foldKey_entryName name (List.mem_cons_of_mem _ hname)).trans
    (List.map_id _)

/-- The line of an entry with some of its fields. -/
theorem entryLine?_record {metadata status text timestamp : Option (String × Json)}
    (h : List.Forall₂ Json.Writes entryNames [metadata, status, text, timestamp]) :
    entryLine? ([metadata, status, text, timestamp].filterMap id) =
      statusLine ((status.map (·.2)).bind textOf?) ((text.map (·.2)).bind textOf?) := by
  have hnames : (entryNames.map foldKey).Nodup := by
    rw [map_foldKey_entryNames]
    decide
  have hmessage : foldKey "message" ∉ entryNames.map foldKey := by
    rw [map_foldKey_entryNames, foldKey_entryName "message" List.mem_cons_self]
    decide
  have hstatus : lookup? ([metadata, status, text, timestamp].filterMap id) "status" =
      status.map (·.2) := lookup?_record h hnames (i := 1) rfl rfl
  have htext : lookup? ([metadata, status, text, timestamp].filterMap id) "text" =
      text.map (·.2) := lookup?_record h hnames (i := 2) rfl rfl
  have hother : lookup? ([metadata, status, text, timestamp].filterMap id) "message" = none :=
    lookup?_record_eq_none h hmessage
  have hfields : field? ([metadata, status, text, timestamp].filterMap id) ["text", "message"] =
      (text.map (·.2)).bind textOf? := by
    simp only [field?, List.findSome?_cons, List.findSome?_nil, htext, hother, Option.bind_none]
    cases (text.map (·.2)).bind textOf? <;> rfl
  rw [entryLine?, hfields, field?, List.findSome?_singleton, hstatus]

/-! ## Objects of one member -/

/-- An object of one member is read back from its text, with the member as it is read. -/
theorem decodeObject?_singleton (key : String) {value kept : Json} (hvalue : value.Integral)
    (hkept : (Document.ofJson value).keep? 126 = some kept) :
    decodeObject? (Json.object [(key, value)]).text = some [(key, kept)] := by
  have hintegral : (Json.object [(key, value)]).Integral := ⟨hvalue, trivial⟩
  have hread : Json.ofText? (Json.object [(key, value)]).text =
      some (.object (Json.insertNew key kept [])) := by
    rw [Json.ofText?, Document.ofText?_text hintegral]
    show (Document.object [(some key, .ofJson value)]).keep? (126 + 1) = _
    simp only [Document.keep?, Document.keepMembers?, hkept, Option.map_some]
  rw [decodeObject?, Json.trim_text_object, hread]
  rfl

/-! ## Entries that are only a text -/

/-- An entry that is only a text. -/
def textEntry (text : String) : Json := .object [("text", .string text)]

theorem entryLine?_textEntry (text : String) :
    (textEntry text).members?.bind entryLine? = Text.nonBlank? text := by
  have hwrites : List.Forall₂ Json.Writes entryNames
      [none, none, Json.member "text" (.string text), none] :=
    .cons nofun <| .cons nofun <| .cons (Json.writes_string _ _) <| .cons nofun .nil
  have hline := entryLine?_record hwrites
  have hfields : [none, none, Json.member "text" (.string text), none].filterMap id =
      [("text", Json.string text)] := rfl
  rw [hfields] at hline
  have hstatus : statusLine none (Text.nonBlank? text) = Text.nonBlank? text := by
    cases Text.nonBlank? text <;> rfl
  rw [textEntry, Json.members?, Option.bind_some, hline]
  exact hstatus

/-! ## Entries as they are written -/

/-- Some entries as they go over the wire. -/
def wireEntries (entries : List Progress) : Json := .array (entries.map (·.toWire.toJson))

/-- What is read of an entry. -/
def readEntry (w : Wire.Progress) : Json :=
  Json.record [Json.textMember "metadata" w.metadata, Json.textMember "status" w.status,
    Json.textMember "text" w.text, Json.member "timestamp" (.string w.timestamp)]

theorem integral_wireEntries (entries : List Progress) : (wireEntries entries).Integral := by
  refine Json.integralItems_of_forall (List.forall_mem_map.2 fun p _ => ?_)
  have hwrites : List.Forall₂ Json.Writes Wire.Progress.fieldNames _ :=
    .cons (Json.writes_string _ p.toWire.timestamp) <| .cons (Json.writes_textMember _ p.text) <|
      .cons (Json.writes_textMember _ p.metadata) <| .cons (Json.writes_textMember _ p.status) .nil
  exact Fields.integral_of_writes hwrites

theorem keep?_toJson (w : Wire.Progress) (levels : Nat) :
    (Document.ofJson w.toJson).keep? (levels + 1) = some (readEntry w) := by
  unfold Wire.Progress.toJson readEntry Json.textMember
  split <;> split <;> split <;> rfl

theorem keep?_wireEntries (entries : List Progress) (levels : Nat) :
    (Document.ofJson (wireEntries entries)).keep? (levels + 2) =
      some (.array (entries.map (readEntry ·.toWire))) := by
  have hitems : Document.keepItems? (Document.ofItems (entries.map (·.toWire.toJson))) (levels + 1) =
      some (entries.map (readEntry ·.toWire)) := by
    induction entries with
    | nil => rfl
    | cons p rest ih =>
      rw [List.map_cons, Document.ofItems, Document.keepItems?, keep?_toJson, ih]
      rfl
  rw [wireEntries, Document.ofJson, Document.keep?, hitems]
  rfl

/-- A list of entries is read back from its text, each with its names ascending. -/
theorem ofText?_wireEntries (entries : List Progress) :
    Json.ofText? (wireEntries entries).text = some (.array (entries.map (readEntry ·.toWire))) := by
  rw [Json.ofText?, Document.ofText?_text (integral_wireEntries entries)]
  exact keep?_wireEntries entries 125

/-- A text that is left out when it is empty. -/
theorem textOf?_textMember (name text : String) :
    ((Json.textMember name text).map (·.2)).bind textOf? = Text.nonBlank? text := by
  rw [Json.textMember]
  split
  · next hempty =>
    rw [hempty]
    rfl
  · rfl

/-- The line that metadata gives of an entry is the one that shows the entry, unless there is nothing
but its time to show. -/
theorem entryLine?_readEntry {p : Progress}
    (h : Text.isBlank p.text = false ∨ Text.isBlank p.status = false) :
    (readEntry p.toWire).members?.bind entryLine? = p.displayLine := by
  have hwrites : List.Forall₂ Json.Writes entryNames
      [Json.textMember "metadata" p.metadata, Json.textMember "status" p.status,
        Json.textMember "text" p.text, Json.member "timestamp" (.string p.timestamp.text)] :=
    .cons (Json.writes_textMember _ _) <| .cons (Json.writes_textMember _ _) <|
      .cons (Json.writes_textMember _ _) <| .cons (Json.writes_string _ _) .nil
  have hline := entryLine?_record hwrites
  rw [textOf?_textMember, textOf?_textMember] at hline
  have hmembers : (readEntry p.toWire).members?.bind entryLine? =
      statusLine (Text.nonBlank? p.status) (Text.nonBlank? p.text) := hline
  rw [hmembers, Progress.displayLine]
  obtain htext | hstatus := h
  · rw [Text.nonBlank?_of_isBlank htext]
    cases Text.nonBlank? p.status <;> rfl
  · rw [Text.nonBlank?_of_isBlank hstatus]
    cases Text.nonBlank? p.text <;> rfl

end TaskWatch.Metadata
