import Mathlib.Data.List.Forall2
import Mathlib.Data.List.Nodup
import TaskWatch.Json.Record
import TaskWatch.Proofs.Json.Tree
import TaskWatch.Proofs.Steps

/-!
# Reading back a record

A record is written as the object of its members, and some members are left out. `Json.Writes` is
what a member owes its field: the key is the field's name, and the numbers in the value are
integers of 64 bits. If every member of a record does that, and no two fields share a name, then
each field that is read `Has` its member, and the record is read back as what its reader makes of
such fields (`Fields.readsBack_record`).

The rest is one lemma for each way a field is written, about the reader that undoes it. A member
that is left out is always the default of its reader.
-/

namespace TaskWatch

namespace Json

/-- The member of a field, when it is not left out, has the field's name for a key, and its numbers
are integers of 64 bits. -/
def Writes (name : String) (member : Option (String × Json)) : Prop :=
  ∀ m ∈ member, m.1 = name ∧ m.2.Integral

/-- A value that is read back by `read?` from its text. -/
def ReadsBack {α : Type} (read? : Document → Option α) (v : Json) (a : α) : Prop :=
  v.Integral ∧ read? (.ofJson v) = some a

theorem ReadsBack.bind_ofText? {α : Type} {read? : Document → Option α} {v : Json} {a : α}
    (h : ReadsBack read? v a) : (Document.ofText? v.text).bind read? = some a := by
  rw [Document.ofText?_text h.1, Option.bind_some, h.2]

/-! ## Members -/

theorem writes_member {v : Json} (name : String) (hv : v.Integral) :
    Writes name (member name v) := by
  intro m hm
  cases hm
  exact ⟨rfl, hv⟩

theorem integral_int (n : Int64) : (Json.int n.toInt).Integral := by
  have hge : Int64.minValue.toInt ≤ n.toInt := Int64.minValue_le_toInt n
  have hle : n.toInt ≤ Int64.maxValue.toInt := Int64.toInt_le n
  have hmin : Int64.minValue.toInt = -Nat.pow 2 63 := by decide
  have hmax : Int64.maxValue.toInt ≤ Number.greatestSignificand := by decide
  exact ⟨hmin ▸ hge, Int.le_trans hle hmax⟩

@[simp] theorem writes_string (name text : String) : Writes name (member name (.string text)) :=
  writes_member name trivial

@[simp] theorem writes_bool (name : String) (b : Bool) : Writes name (member name (.bool b)) :=
  writes_member name trivial

@[simp] theorem writes_intMember (name : String) (n : Int64) : Writes name (intMember name n) :=
  writes_member name (integral_int n)

@[simp] theorem writes_textMember (name text : String) : Writes name (textMember name text) := by
  rw [textMember]
  split
  · exact fun m hm => nomatch hm
  · exact writes_string name text

variable {α : Type} {read? : Document → Option α} {write : α → Json}

theorem writes_partMember (h : ∀ a, ReadsBack read? (write a) a) (name : String)
    (part : Option α) : Writes name (partMember name (part.map write)) := by
  cases part with
  | none => exact fun m hm => nomatch hm
  | some a => exact writes_member name (h a).1

theorem writes_listMember (h : ∀ a, ReadsBack read? (write a) a) (name : String)
    (items : List α) : Writes name (listMember name (items.map write)) := by
  rw [listMember]
  split
  · exact fun m hm => nomatch hm
  · refine writes_member name (integralItems_of_forall fun v hv => ?_)
    obtain ⟨a, -, rfl⟩ := List.mem_map.mp hv
    exact (h a).1

end Json

namespace Fields

/-! ## The members of a record are its fields -/

/-- What is read for a field is the value of its member, and nothing if that is left out. -/
def Has (fields : Fields) (name : String) (member : Option (String × Json)) : Prop :=
  fields.get? name = member.map fun m => .ofJson m.2

/-- The entry of a member that is not left out. -/
def entry (m : String × Json) : String × Document := (m.1, .ofJson m.2)

theorem ofMembers_isSome (ms : Members) :
    (Document.ofMembers ms).all (·.1.isSome) = true := by
  induction ms with
  | nil => rfl
  | cons m ms ih => exact ih

theorem filterMap_named? {names : List String} {ms : Members} (h : ∀ m ∈ ms, m.1 ∈ names) :
    (Document.ofMembers ms).filterMap (named? names) = ms.map entry := by
  induction ms with
  | nil => rfl
  | cons m ms ih =>
    have hm : names.contains m.1 = true := List.contains_iff_mem.mpr (h m List.mem_cons_self)
    rw [Document.ofMembers, List.filterMap_cons, named?, if_pos hm, List.map_cons,
      ih fun n hn => h n (List.mem_cons_of_mem m hn)]
    rfl

variable {names : List String} {members : List (Option (String × Json))}

theorem integral_of_writes (h : List.Forall₂ Json.Writes names members) :
    (Json.record members).Integral := by
  refine Json.integralMembers_of_forall ?_
  induction h with
  | nil => exact fun m hm => nomatch hm
  | @cons name member names members hmember _ ih =>
    cases member with
    | none => exact ih
    | some m => exact List.forall_mem_cons.mpr ⟨(hmember m rfl).2, ih⟩

/-- The keys that are written are names of fields, in the order of the fields. -/
theorem keys_sublist (h : List.Forall₂ Json.Writes names members) :
    ((members.filterMap id).map (·.1)).Sublist names := by
  induction h with
  | nil => exact .slnil
  | @cons name member names members hmember _ ih =>
    cases member with
    | none => exact .cons name ih
    | some m => exact (hmember m rfl).1 ▸ .cons_cons m.1 ih

theorem get?_eq_none (h : List.Forall₂ Json.Writes names members) {name : String}
    (hname : name ∉ names) : get? ⟨(members.filterMap id).map entry⟩ name = none := by
  rw [get?, Option.map_eq_none_iff, List.find?_eq_none]
  intro e he heq
  obtain ⟨m, hm, rfl⟩ := List.mem_map.mp he
  exact hname (beq_iff_eq.mp heq ▸ (keys_sublist h).subset (List.mem_map_of_mem hm))

theorem has_entries (h : List.Forall₂ Json.Writes names members) (hnames : names.Nodup) {i : Nat}
    {name : String} {member : Option (String × Json)} (hname : names[i]? = some name)
    (hmember : members[i]? = some member) :
    Has ⟨(members.filterMap id).map entry⟩ name member := by
  induction h generalizing i with
  | nil => cases hname
  | @cons first head names members hhead htail ih =>
    obtain ⟨hfirst, hnames⟩ := List.nodup_cons.mp hnames
    cases i with
    | zero =>
      cases hname
      cases hmember
      cases member with
      | none => exact get?_eq_none htail hfirst
      | some m =>
        have hkey : ((entry m).1 == name) = true := beq_iff_eq.mpr (hhead m rfl).1
        exact congrArg (Option.map Prod.snd) (List.find?_cons_of_pos hkey)
    | succ i =>
      have hrest := ih hnames hname hmember
      cases head with
      | none => exact hrest
      | some m =>
        have hne : ¬(entry m).1 == name := by
          intro heq
          have hmem : name ∈ names := List.mem_of_getElem? hname
          rw [← beq_iff_eq.mp heq, entry, (hhead m rfl).1] at hmem
          exact hfirst hmem
        exact (congrArg (Option.map Prod.snd) (List.find?_cons_of_neg hne)).trans hrest

theorem ofDocument?_record (h : List.Forall₂ Json.Writes names members) (hnames : names.Nodup) :
    ofDocument? names (.ofJson (Json.record members)) =
      some ⟨(members.filterMap id).map entry⟩ := by
  have hknown : (Document.ofMembers (members.filterMap id)).filterMap (named? names) =
      (members.filterMap id).map entry :=
    filterMap_named? fun m hm => (keys_sublist h).subset (List.mem_map_of_mem hm)
  have hkeys : (((members.filterMap id).map entry).map (·.1)).Nodup := by
    rw [List.map_map]
    exact hnames.sublist (keys_sublist h)
  rw [Json.record, Document.ofJson, ofDocument?]
  simp only [hknown]
  exact if_pos ⟨ofMembers_isSome _, hkeys⟩

/-- A record is read back if its reader does so from any fields that have its members. -/
theorem readsBack_record {α : Type} (names : List String) {v : Json}
    {members : List (Option (String × Json))} (hv : v = Json.record members)
    (h : List.Forall₂ Json.Writes names members) (hnames : names.Nodup)
    {read : Fields → Option α} {a : α}
    (hread : ∀ fields : Fields, (∀ (i : Nat) {name member}, names[i]? = some name →
      members[i]? = some member → fields.Has name member) → read fields = some a) :
    Json.ReadsBack (fun d => ofDocument? names d >>= read) v a := by
  subst hv
  exact ⟨integral_of_writes h,
    bind_of_eq_some (ofDocument?_record h hnames) (hread _ fun _ _ _ => has_entries h hnames)⟩

/-! ## Fields -/

variable {fields : Fields} {name : String}

theorem text_member {s : String} (h : fields.Has name (Json.member name (.string s))) :
    fields.text name = some s := by
  rw [text, withDefault, h]
  rfl

theorem text_textMember {s : String} (h : fields.Has name (Json.textMember name s)) :
    fields.text name = some s := by
  rw [text, withDefault, h, Json.textMember]
  by_cases hs : s = ""
  · rw [if_pos hs, hs]
    rfl
  · rw [if_neg hs]
    rfl

theorem flag_member {b : Bool} (h : fields.Has name (Json.member name (.bool b))) :
    fields.flag name = some b := by
  rw [flag, withDefault, h]
  rfl

theorem int_intMember {n : Int64} (h : fields.Has name (Json.intMember name n)) :
    fields.int name = some n := by
  rw [int, withDefault, h, Json.intMember]
  have hbounds : Int64.minValue.toInt ≤ n.toInt ∧ n.toInt ≤ Int64.maxValue.toInt :=
    ⟨Int64.minValue_le_toInt n, Int64.toInt_le n⟩
  simp only [Option.map_some, Json.int, Document.ofJson, Document.int?]
  rw [if_pos hbounds, Int64.ofInt_toInt]

variable {α : Type} {read? : Document → Option α} {write : α → Json}

theorem required_member {v : Json} {a : α} (h : fields.Has name (Json.member name v))
    (hread : read? (.ofJson v) = some a) : fields.required name read? = some a := by
  rw [required, h]
  exact hread

theorem items?_map (hwrite : ∀ a, Json.ReadsBack read? (write a) a) (items : List α) :
    Document.items? read? (.array (Document.ofItems (items.map write))) = some items := by
  rw [Document.items?]
  induction items with
  | nil => rfl
  | cons a items ih =>
    rw [List.map_cons, Document.ofItems, List.mapM_cons, (hwrite a).2, ih]
    rfl

theorem list_listMember (hwrite : ∀ a, Json.ReadsBack read? (write a) a) {items : List α}
    (h : fields.Has name (Json.listMember name (items.map write))) :
    fields.list name read? = some items := by
  rw [list, withDefault, h, Json.listMember]
  cases items with
  | nil => rfl
  | cons a items => exact items?_map hwrite (a :: items)

theorem optional_none (h : fields.Has name none) : fields.optional name read? = some none := by
  rw [optional, h]
  rfl

/-- A part that is read at all is not written as `null`. -/
theorem optional_partMember (hwrite : ∀ a, Json.ReadsBack read? (write a) a)
    (hnull : read? .null = none) {part : Option α}
    (h : fields.Has name (Json.partMember name (part.map write))) :
    fields.optional name read? = some part := by
  cases part with
  | none => exact optional_none h
  | some a =>
    have ha := (hwrite a).2
    rw [optional, h]
    simp only [Json.partMember, Option.map_some]
    split
    · next hv => cases hv
    · next hv =>
      rw [Option.some.inj hv, hnull] at ha
      cases ha
    · next hv =>
      rw [← Option.some.inj hv, ha]
      rfl

end Fields

end TaskWatch
