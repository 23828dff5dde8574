import TaskWatch.Proofs.Json.Tree
import TaskWatch.Text.Blank

/-!
# Values that are kept as they are

Reading a value sorts the members of its objects, keeps the last one of each key, and refuses a
nesting that is too deep. A *tidy* value has sorted members with different keys and is not too deep,
so it comes back from its text unchanged (`Json.ofText?_text`).
-/

namespace TaskWatch

namespace Json

mutual

/-- A value is nested at most so many levels deep, and the keys of each of its objects ascend. -/
def Tidy : Json → Nat → Prop
  | .array _, 0 => False
  | .array items, levels + 1 => TidyItems items levels
  | .object _, 0 => False
  | .object members, levels + 1 => TidyMembers members levels
  | _, _ => True
  termination_by structural v => v

/-- The items of an array are tidy. -/
def TidyItems : List Json → Nat → Prop
  | [], _ => True
  | item :: rest, levels => item.Tidy levels ∧ TidyItems rest levels
  termination_by structural items => items

/-- The members of an object are tidy, and their keys ascend. -/
def TidyMembers : List (String × Json) → Nat → Prop
  | [], _ => True
  | (key, value) :: rest, levels =>
    value.Tidy levels ∧ (∀ m ∈ rest, key < m.1) ∧ TidyMembers rest levels
  termination_by structural members => members

end

theorem tidyMembers_of_forall {members : Members} {levels : Nat}
    (hkeys : (members.map (·.1)).Pairwise (· < ·)) (h : ∀ m ∈ members, m.2.Tidy levels) :
    TidyMembers members levels := by
  induction members with
  | nil => trivial
  | cons m rest ih =>
    obtain ⟨hm, hrest⟩ := List.forall_mem_cons.1 h
    rw [List.map_cons, List.pairwise_cons] at hkeys
    exact ⟨hm, fun n hn => hkeys.1 n.1 (List.mem_map_of_mem hn), ih hkeys.2 hrest⟩

/-- A member whose key is below all others is put in front. -/
theorem insertNew_of_lt {key : String} (value : Json) {members : Members}
    (h : ∀ m ∈ members, key < m.1) : insertNew key value members = (key, value) :: members := by
  cases members with
  | nil => rfl
  | cons m rest => exact if_pos (h m List.mem_cons_self)

end Json

namespace Document

mutual

theorem keep?_ofJson (v : Json) {levels : Nat} (hv : v.Tidy levels) :
    (ofJson v).keep? levels = some v := by
  match v, levels with
  | .null, _ | .bool _, _ | .number _, _ | .string _, _ => rfl
  | .array _, 0 | .object _, 0 => exact hv.elim
  | .array items, levels + 1 =>
    rw [ofJson, keep?, keepItems?_ofItems items hv]
    rfl
  | .object members, levels + 1 =>
    rw [ofJson, keep?, keepMembers?_ofMembers members hv]
    rfl
termination_by structural v

theorem keepItems?_ofItems (items : List Json) {levels : Nat} (h : Json.TidyItems items levels) :
    keepItems? (ofItems items) levels = some items := by
  match items with
  | [] => rfl
  | item :: rest => rw [ofItems, keepItems?, keep?_ofJson item h.1, keepItems?_ofItems rest h.2]
termination_by structural items

theorem keepMembers?_ofMembers (members : Members) {levels : Nat}
    (h : Json.TidyMembers members levels) :
    keepMembers? (ofMembers members) levels = some members := by
  match members with
  | [] => rfl
  | (key, value) :: rest =>
    have hvalue : (ofJson value).keep? levels = some value := keep?_ofJson value h.1
    have hrest : keepMembers? (ofMembers rest) levels = some rest :=
      keepMembers?_ofMembers rest h.2.2
    simp only [ofMembers, keepMembers?, hvalue, hrest, Json.insertNew_of_lt value h.2.1]
termination_by structural members

end

end Document

namespace Json

/-- A tidy value is read back from its text as it is. -/
theorem ofText?_text {v : Json} (hv : v.Integral) (htidy : v.Tidy Document.greatestDepth) :
    ofText? v.text = some v := by
  rw [ofText?, Document.ofText?_text hv]
  exact Document.keep?_ofJson v htidy

/-- Nothing is lost when the text of an object is trimmed. -/
theorem trim_text_object (members : Members) :
    Text.trim (Json.object members).text = (Json.object members).text := by
  have hopen : Text.isBlankChar '{' = false := by decide
  have hclose : Text.isBlankChar '}' = false := by decide
  have hends : '{' :: (memberChars members ++ ['}']) = ('{' :: memberChars members) ++ ['}'] := rfl
  rw [Text.trim, text, String.toList_ofList]
  exact congrArg String.ofList (Text.trimChars_of_ends hopen hclose hends)

end Json

end TaskWatch
