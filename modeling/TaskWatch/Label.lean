import TaskWatch.Call.Basic
import TaskWatch.Text.Case

/-!
# Labels

A label comes from one of three tiers, and a higher tier wins. The lowest is a name made readable;
the `Catalog` gives better labels for known names. A label that says no more than "this is
asynchronous" is generic, and any label of the catalog is preferred to it.
-/

namespace TaskWatch

/-- Where a label comes from. -/
inductive LabelTier where
  /-- There is no label yet. -/
  | none
  /-- The name of a tool or command. -/
  | fallback
  /-- The metadata of a call or task. -/
  | metadata
  /-- A snapshot from outside. -/
  | external
  deriving DecidableEq, Repr

/-- The rank of a tier; the higher wins. -/
def LabelTier.rank : LabelTier → Nat
  | .none => 0
  | .fallback => 1
  | .metadata => 2
  | .external => 3

namespace Label

/-- The name of the tool that runs other tools in the background. -/
def asyncToolName : String := "daemon_async"

/-- A name made readable: its words, split at underscores and blanks, with capitals. -/
def prettify (name : String) : String :=
  let spaced := String.ofList (name.toList.map fun c => if c = '_' then ' ' else c)
  " ".intercalate ((Text.words spaced).map Text.capitalize)

/-- Whether a name only says that something is asynchronous. -/
def isGenericName (name : String) : Bool :=
  let folded := Text.lower (Text.trim name)
  folded == asyncToolName || folded == "async" || "async_".toList.isPrefixOf folded.toList

/-- Whether a label is just what a generic name of the call would give. -/
def isGeneric (label : String) (call : ToolCall) (result : ToolResult) : Bool :=
  let label := Text.trim label
  label == "" || Text.eqIgnoringAsciiCase label defaultLabel ||
    [Text.trim call.name, Text.trim result.name].any fun name =>
      isGenericName name && prettify name != "" && Text.eqIgnoringAsciiCase (prettify name) label

end Label

/-- The labels of known names, latest first. Names are looked up in small letters. -/
structure Catalog where
  entries : List (String × String) := []

namespace Catalog

/-- The key of a name. -/
def key (name : String) : String := Text.lower (Text.trim name)

/-- The catalog with one more label. A blank name or label adds nothing. -/
def insert (catalog : Catalog) (name label : String) : Catalog :=
  let label := Text.trim label
  if key name = "" ∨ label = "" then catalog
  else ⟨(key name, label) :: catalog.entries.filter (·.1 != key name)⟩

/-- The catalog of a list of names with labels; of two labels for one name the later counts. -/
def ofList (entries : List (String × String)) : Catalog :=
  entries.foldl (fun catalog (name, label) => catalog.insert name label) {}

/-- The label of a known name. -/
def label? (catalog : Catalog) (name : String) : Option String :=
  if key name = "" then none
  else (catalog.entries.find? (·.1 == key name)).map (·.2)

/-- The label of a name: from the catalog, or the name made readable. -/
def labelFor (catalog : Catalog) (name : String) : String :=
  let name := Text.trim name
  if name = "" then "" else (catalog.label? name).getD (Label.prettify name)

/-- The label to show for a call: the catalog's in the place of a generic one. -/
def prefer (catalog : Catalog) (current : String) (call : ToolCall) (result : ToolResult) :
    String :=
  let current := Text.trim current
  let known := (catalog.label? result.name).orElse fun _ => catalog.label? call.name
  match known with
  | some label =>
    if Label.isGeneric current call result then label else current
  | none => if current = "" then defaultLabel else current

end Catalog

end TaskWatch
