import TaskWatch.Text.Blank

/-!
# The environment

Variables, references to them inside texts, and paths. A reference is a name in braces after a
dollar sign, where a name is a letter or underscore followed by letters, digits or underscores, all
of them ASCII. `Environment.expand` puts values in the place of references, once: a value is never
searched for references again, and everything that is no reference stays as it is.
-/

namespace TaskWatch

/-- The variables that are set. -/
structure Environment where
  «variables» : List (String × String)

namespace Environment

def get? (env : Environment) (name : String) : Option String :=
  (env.«variables».find? (·.1 == name)).map (·.2)

/-- The value of a variable that is set and not blank. -/
def nonBlank? (env : Environment) (name : String) : Option String :=
  (env.get? name).filter (!Text.isBlank ·)

/-! ## References -/

/-- What a name may start with. -/
def isNameStart (c : Char) : Bool := c.isAlpha || c == '_'

/-- What a name may go on with. -/
def isNameChar (c : Char) : Bool := c.isAlphanum || c == '_'

/-- The name of the reference at the start of the text, and what follows its closing brace. -/
def reference? : List Char → Option (String × List Char)
  | '$' :: '{' :: first :: cs =>
    if isNameStart first then
      match cs.dropWhile isNameChar with
      | '}' :: rest => some (String.ofList (first :: cs.takeWhile isNameChar), rest)
      | _ => none
    else none
  | _ => none

theorem reference?_length {cs rest : List Char} {name : String}
    (h : reference? cs = some (name, rest)) : rest.length < cs.length := by
  unfold reference? at h
  split at h
  · next first cs =>
    split at h
    · split at h
      · next tail hdrop =>
        have hlen := (List.dropWhile_sublist isNameChar (l := cs)).length_le
        rw [hdrop] at hlen
        simp only [Option.some.injEq, Prod.mk.injEq] at h
        obtain ⟨-, rfl⟩ := h
        simp only [List.length_cons] at hlen ⊢
        omega
      · simp at h
    · simp at h
  · simp at h

/-- The characters with every reference replaced. -/
def expandChars (env : Environment) (cs : List Char) : List Char :=
  match h : reference? cs with
  | some (name, rest) =>
    have : rest.length < cs.length := reference?_length h
    ((env.get? name).getD "").toList ++ expandChars env rest
  | none =>
    match cs with
    | [] => []
    | c :: rest => c :: expandChars env rest
  termination_by cs.length

/-- The text with the value of its variable in the place of each reference; a variable that is not
set has the empty value. -/
def expand (env : Environment) (s : String) : String :=
  String.ofList (expandChars env s.toList)

/-- The names of the references in the characters, in their order. -/
def referencedNames (cs : List Char) : List String :=
  match h : reference? cs with
  | some (name, rest) =>
    have : rest.length < cs.length := reference?_length h
    name :: referencedNames rest
  | none =>
    match cs with
    | [] => []
    | _ :: rest => referencedNames rest
  termination_by cs.length

end Environment

/-! ## Paths -/

/-- A path inside a directory; the empty directory adds nothing. -/
def joinPath (directory name : String) : String :=
  if directory.isEmpty || directory.toList.getLast? == some '/' then directory ++ name
  else directory ++ "/" ++ name

end TaskWatch
