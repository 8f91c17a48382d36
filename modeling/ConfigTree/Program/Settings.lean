import ConfigTree.Files.Disk
import ConfigTree.Toml.Read

/-!
# Settings

A file of settings stands in for options that the command line does not give.  Settings
that are not known are ignored.

## Main definitions

* `Settings` — what a file says.
* `Settings.ofText?` — reading it.
-/

namespace ConfigTree

/-- What a file of settings says. -/
structure Settings where
  /-- The folders to import from. -/
  includes : Option String
  /-- What stands between these. -/
  separator : Option String
  /-- The tag of the cipher. -/
  cipher : Option String
  /-- The key. -/
  key : Option String
  /-- The notation of the output. -/
  format : Option String
  /-- Whether a failure ends everything. -/
  strict : Option Bool
  /-- Parameters. -/
  params : Mapping
  /-- Names. -/
  names : Mapping

namespace Settings

/-- The file that says nothing. -/
def empty : Settings := ⟨none, none, none, none, none, none, [], []⟩

/-- A setting of one kind; one of another kind is refused. -/
def setting {α : Type} (kind : Value → Option α) (entries : Mapping) (key : String) :
    Option (Option α) :=
  match entries.get? key with
  | none => some none
  | some v => (kind v).map some

/-- A boolean. -/
def bool? : Value → Option Bool
  | .bool b => some b
  | _ => none

/-- The settings in a mapping. -/
def ofMapping? (entries : Mapping) : Option Settings := do
  let text := setting Value.str? entries
  let mapping := setting Value.map? entries
  return {
    includes := ← text "include"
    separator := ← text "pathsep"
    cipher := ← text "etype"
    key := ← text "ekey"
    format := ← text "format"
    strict := ← setting bool? entries "strict"
    params := (← mapping "params").getD []
    names := (← mapping "names").getD [] }

/-- The settings in a text. -/
def ofText? (text : String) : Option Settings := (Toml.read text).bind ofMapping?

/-- The file that is read unless another is named. -/
def defaultFile : String := "conff.toml"

end Settings

end ConfigTree
