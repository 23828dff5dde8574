import TaskWatch.Metadata.Lines
import TaskWatch.Proofs.Entries
import TaskWatch.Proofs.Json.Record

/-!
# Looking up the fields of a record

Metadata is looked up more loosely than it is written: a key is found up to case and blanks. As long
as the names of a record's fields differ even then (`foldKey`), each of them is found under its own
name (`lookup?_record`), and nothing is found under any other (`lookup?_record_eq_none`).
-/

namespace TaskWatch.Metadata

theorem lookup?_eq_none {members : Members} {key : String}
    (h : ∀ m ∈ members, foldKey m.1 ≠ foldKey key) : lookup? members key = none := by
  have hexact : Json.get? members key = none := by
    rw [Json.get?, Option.map_eq_none_iff, find?_key_eq_none]
    intro hmem
    obtain ⟨m, hm, rfl⟩ := List.mem_map.1 hmem
    exact h m hm rfl
  have hfolded : members.find? (foldKey ·.1 == foldKey key) = none :=
    List.find?_eq_none.2 fun m hm heq => h m hm (beq_iff_eq.1 heq)
  rw [lookup?, hexact, hfolded]
  rfl

theorem lookup?_of_mem {members : Members} {key : String} {value : Json}
    (hkeys : (members.map (·.1)).Nodup) (h : (key, value) ∈ members) :
    lookup? members key = some value := by
  rw [lookup?, Json.get?, (find?_key hkeys).2 h]
  rfl

section

variable {names : List String} {members : List (Option (String × Json))}

/-- The keys of a record are names of its fields. -/
theorem key_mem_names (h : List.Forall₂ Json.Writes names members) {m : String × Json}
    (hm : m ∈ members.filterMap id) : m.1 ∈ names :=
  (Fields.keys_sublist h).subset (List.mem_map_of_mem hm)

/-- Nothing is found under a key that is like no name. -/
theorem lookup?_record_eq_none (h : List.Forall₂ Json.Writes names members) {key : String}
    (hkey : foldKey key ∉ names.map foldKey) : lookup? (members.filterMap id) key = none :=
  lookup?_eq_none fun _ hm heq => hkey (heq ▸ List.mem_map_of_mem (key_mem_names h hm))

theorem writes_getElem? (h : List.Forall₂ Json.Writes names members) {i : Nat}
    {member : Option (String × Json)} (hmember : members[i]? = some member) :
    ∃ name, names[i]? = some name ∧ Json.Writes name member := by
  obtain ⟨hlt, rfl⟩ := List.getElem?_eq_some_iff.1 hmember
  have hlt' : i < names.length := h.length_eq ▸ hlt
  exact ⟨names[i], List.getElem?_eq_getElem hlt', h.get hlt' hlt⟩

/-- A field is found under its name. -/
theorem lookup?_record (h : List.Forall₂ Json.Writes names members)
    (hnames : (names.map foldKey).Nodup) {i : Nat} {name : String}
    {member : Option (String × Json)} (hname : names[i]? = some name)
    (hmember : members[i]? = some member) :
    lookup? (members.filterMap id) name = member.map (·.2) := by
  obtain ⟨name', hname', hwrites⟩ := writes_getElem? h hmember
  obtain rfl : name = name' := Option.some.inj (hname.symm.trans hname')
  cases member with
  | some m =>
    obtain ⟨key, value⟩ := m
    obtain rfl : key = name := (hwrites _ rfl).1
    have hkeys : ((members.filterMap id).map (·.1)).Nodup :=
      (List.Nodup.of_map foldKey hnames).sublist (Fields.keys_sublist h)
    have hmem : (key, value) ∈ members.filterMap id :=
      List.mem_filterMap.2 ⟨_, List.mem_of_getElem? hmember, rfl⟩
    exact lookup?_of_mem hkeys hmem
  | none =>
    refine lookup?_eq_none fun m hm heq => ?_
    obtain ⟨found, hfound, rfl⟩ := List.mem_filterMap.1 hm
    obtain ⟨j, hj⟩ := List.getElem?_of_mem hfound
    obtain ⟨other, hother, hkey⟩ := writes_getElem? h hj
    rw [(hkey m rfl).1] at heq
    have hlt : j < (names.map foldKey).length := by
      rw [List.length_map]
      exact (List.getElem?_eq_some_iff.1 hother).1
    have hsame : (names.map foldKey)[j]? = (names.map foldKey)[i]? := by
      rw [List.getElem?_map, List.getElem?_map, hother, hname, Option.map_some, heq, Option.map_some]
    obtain rfl := (List.getElem?_inj hlt hnames).1 hsame
    rw [hmember] at hj
    cases hj

end

end TaskWatch.Metadata
