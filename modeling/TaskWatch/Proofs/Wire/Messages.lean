import TaskWatch.Proofs.Json.Record
import TaskWatch.Wire.Event
import TaskWatch.Wire.Request
import TaskWatch.Wire.Response

/-!
# Messages are read back

Every record of the wire is read back from the value it is written as (`readsBack`), and so are the
three messages from their texts (`messages_read_back`): leaving a field out on the one side and
filling it in on the other cancel out. A reader of a field meets its member by the place that both
have in the record.
-/

namespace TaskWatch.Wire

/-! ## Records -/

theorem Progress.readsBack (p : Progress) : Json.ReadsBack ofDocument? p.toJson p := by
  refine Fields.readsBack_record fieldNames rfl (by simp [fieldNames]) (by decide)
    fun fields has => ?_
  refine bind_of_eq_some (Fields.text_member (has 0 rfl rfl)) ?_
  refine bind_of_eq_some (Fields.text_textMember (has 1 rfl rfl)) ?_
  refine bind_of_eq_some (Fields.text_textMember (has 2 rfl rfl)) ?_
  exact bind_of_eq_some (Fields.text_textMember (has 3 rfl rfl)) rfl

theorem Task.readsBack (t : Task) : Json.ReadsBack ofDocument? t.toJson t := by
  refine Fields.readsBack_record fieldNames rfl
    (by simp [fieldNames, Json.writes_listMember Progress.readsBack]) (by decide)
    fun fields has => ?_
  refine bind_of_eq_some (Fields.text_member (has 0 rfl rfl)) ?_
  refine bind_of_eq_some (Fields.text_member (has 1 rfl rfl)) ?_
  refine bind_of_eq_some (Fields.text_member (has 2 rfl rfl)) ?_
  refine bind_of_eq_some (Fields.text_member (has 3 rfl rfl)) ?_
  refine bind_of_eq_some (Fields.text_textMember (has 4 rfl rfl)) ?_
  refine bind_of_eq_some (Fields.text_textMember (has 5 rfl rfl)) ?_
  refine bind_of_eq_some (Fields.text_textMember (has 6 rfl rfl)) ?_
  refine bind_of_eq_some (Fields.text_textMember (has 7 rfl rfl)) ?_
  refine bind_of_eq_some (Fields.text_textMember (has 8 rfl rfl)) ?_
  refine bind_of_eq_some (Fields.text_textMember (has 9 rfl rfl)) ?_
  refine bind_of_eq_some (Fields.text_textMember (has 10 rfl rfl)) ?_
  refine bind_of_eq_some (Fields.text_textMember (has 11 rfl rfl)) ?_
  refine bind_of_eq_some (Fields.text_member (has 12 rfl rfl)) ?_
  refine bind_of_eq_some (Fields.text_textMember (has 13 rfl rfl)) ?_
  refine bind_of_eq_some (Fields.text_textMember (has 14 rfl rfl)) ?_
  refine bind_of_eq_some (Fields.text_textMember (has 15 rfl rfl)) ?_
  refine bind_of_eq_some (Fields.text_member (has 16 rfl rfl)) ?_
  refine bind_of_eq_some (Fields.text_member (has 17 rfl rfl)) ?_
  refine bind_of_eq_some (Fields.text_textMember (has 18 rfl rfl)) ?_
  exact bind_of_eq_some (Fields.list_listMember Progress.readsBack (has 19 rfl rfl)) rfl

theorem Event.readsBack (e : Event) : Json.ReadsBack ofDocument? e.toJson e := by
  refine Fields.readsBack_record fieldNames rfl
    (by simp [fieldNames, Json.writes_partMember Task.readsBack,
      Json.writes_partMember Progress.readsBack]) (by decide) fun fields has => ?_
  refine bind_of_eq_some (Fields.text_member (has 0 rfl rfl)) ?_
  refine bind_of_eq_some (Fields.optional_partMember Task.readsBack rfl (has 1 rfl rfl)) ?_
  refine bind_of_eq_some (Fields.optional_partMember Progress.readsBack rfl (has 2 rfl rfl)) ?_
  exact bind_of_eq_some (Fields.text_textMember (has 3 rfl rfl)) rfl

theorem ProcessInfo.readsBack (p : ProcessInfo) : Json.ReadsBack ofDocument? p.toJson p := by
  refine Fields.readsBack_record fieldNames rfl (by simp [fieldNames]) (by decide)
    fun fields has => ?_
  have hname : fields.required "name" Document.text? = some p.name :=
    Fields.required_member (has 0 rfl rfl) rfl
  refine bind_of_eq_some hname ?_
  refine bind_of_eq_some (Fields.text_member (has 1 rfl rfl)) ?_
  refine bind_of_eq_some (Fields.text_textMember (has 2 rfl rfl)) ?_
  refine bind_of_eq_some (Fields.int_intMember (has 3 rfl rfl)) ?_
  refine bind_of_eq_some (Fields.int_intMember (has 4 rfl rfl)) ?_
  exact bind_of_eq_some (Fields.int_intMember (has 5 rfl rfl)) rfl

theorem Metrics.readsBack (m : Metrics) : Json.ReadsBack ofDocument? m.toJson m := by
  refine Fields.readsBack_record fieldNames rfl (by simp [fieldNames]) (by decide)
    fun fields has => ?_
  refine bind_of_eq_some (Fields.int_intMember (has 0 rfl rfl)) ?_
  refine bind_of_eq_some (Fields.int_intMember (has 1 rfl rfl)) ?_
  refine bind_of_eq_some (Fields.int_intMember (has 2 rfl rfl)) ?_
  refine bind_of_eq_some (Fields.int_intMember (has 3 rfl rfl)) ?_
  refine bind_of_eq_some (Fields.int_intMember (has 4 rfl rfl)) ?_
  exact bind_of_eq_some (Fields.int_intMember (has 5 rfl rfl)) rfl

theorem Response.readsBack (r : Response) : Json.ReadsBack ofDocument? r.toJson r := by
  refine Fields.readsBack_record fieldNames rfl
    (by simp [fieldNames, Json.writes_listMember ProcessInfo.readsBack,
      Json.writes_partMember Task.readsBack, Json.writes_listMember Task.readsBack,
      Json.writes_partMember Metrics.readsBack]) (by decide) fun fields has => ?_
  refine bind_of_eq_some (Fields.flag_member (has 0 rfl rfl)) ?_
  refine bind_of_eq_some (Fields.text_textMember (has 1 rfl rfl)) ?_
  refine bind_of_eq_some (Fields.list_listMember ProcessInfo.readsBack (has 2 rfl rfl)) ?_
  refine bind_of_eq_some (Fields.optional_partMember Task.readsBack rfl (has 3 rfl rfl)) ?_
  refine bind_of_eq_some (Fields.list_listMember Task.readsBack (has 4 rfl rfl)) ?_
  exact bind_of_eq_some (Fields.optional_partMember Metrics.readsBack rfl (has 5 rfl rfl)) rfl

theorem RequestKind.ofName?_name (kind : RequestKind) : ofName? kind.name = some kind := by
  cases kind <;> decide

/-- A lifecycle value need not be read back: it is kept sorted, and only to some depth. -/
theorem Request.readsBack {r : Request} (hdata : r.lifecycleData = none) :
    Json.ReadsBack ofDocument? r.toJson r := by
  have hpart : Json.Writes "lifecycle_data" (Json.partMember "lifecycle_data" r.lifecycleData) := by
    rw [hdata]
    exact fun m hm => nomatch hm
  refine Fields.readsBack_record fieldNames rfl
    (by simp [fieldNames, hpart]) (by decide) fun fields has => ?_
  have hkind : fields.required "type" RequestKind.ofDocument? = some r.kind :=
    Fields.required_member (has 0 rfl rfl) r.kind.ofName?_name
  have hnone : fields.optional "lifecycle_data" (·.keep? payloadDepth) = some r.lifecycleData := by
    have hhas : fields.Has "lifecycle_data" (Json.partMember "lifecycle_data" r.lifecycleData) :=
      has 14 rfl rfl
    rw [hdata] at hhas ⊢
    exact Fields.optional_none hhas
  refine bind_of_eq_some hkind ?_
  refine bind_of_eq_some (Fields.text_textMember (has 1 rfl rfl)) ?_
  refine bind_of_eq_some (Fields.text_textMember (has 2 rfl rfl)) ?_
  refine bind_of_eq_some (Fields.text_textMember (has 3 rfl rfl)) ?_
  refine bind_of_eq_some (Fields.text_textMember (has 4 rfl rfl)) ?_
  refine bind_of_eq_some (Fields.text_textMember (has 5 rfl rfl)) ?_
  refine bind_of_eq_some (Fields.text_textMember (has 6 rfl rfl)) ?_
  refine bind_of_eq_some (Fields.text_textMember (has 7 rfl rfl)) ?_
  refine bind_of_eq_some (Fields.text_textMember (has 8 rfl rfl)) ?_
  refine bind_of_eq_some (Fields.text_textMember (has 9 rfl rfl)) ?_
  refine bind_of_eq_some (Fields.text_textMember (has 10 rfl rfl)) ?_
  refine bind_of_eq_some (Fields.text_textMember (has 11 rfl rfl)) ?_
  refine bind_of_eq_some (Fields.text_textMember (has 12 rfl rfl)) ?_
  refine bind_of_eq_some (Fields.text_textMember (has 13 rfl rfl)) ?_
  exact bind_of_eq_some hnone rfl

/-! ## Texts -/

/-- An event is read back from its text. -/
theorem Event.ofText?_text (e : Event) : ofText? e.text = some e :=
  e.readsBack.bind_ofText?

/-- Every response is read back from its line without the newline, every event from its text, and
every request without a lifecycle value from its line without the newline. -/
theorem messages_read_back :
    (∀ r : Response, ∃ text, r.line = text ++ "\n" ∧ Response.ofText? text = some r) ∧
      (∀ e : Event, Event.ofText? e.text = some e) ∧
      ∀ r : Request, r.lifecycleData = none →
        ∃ text, r.line = text ++ "\n" ∧ Request.ofText? text = some r :=
  ⟨fun r => ⟨r.text, rfl, r.readsBack.bind_ofText?⟩, Event.ofText?_text,
    fun r hdata => ⟨r.toJson.text, rfl, (Request.readsBack hdata).bind_ofText?⟩⟩

/-- A request whose arguments hold quotes, a backslash, a newline, a control character and an emoji
is read back. -/
theorem quoted_request_read_back :
    let r : Request := { kind := .toolSubmit, toolArgs := "\"C:\\\n\x01😀\"" }
    r.lifecycleData = none ∧ ∃ text, r.line = text ++ "\n" ∧ Request.ofText? text = some r :=
  ⟨rfl, messages_read_back.2.2 _ rfl⟩

end TaskWatch.Wire
