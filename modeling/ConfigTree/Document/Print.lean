import ConfigTree.Document.Error
import ConfigTree.Json.Write
import ConfigTree.Yaml.Write

/-!
# Documents printed

Several documents make a stream in YAML and a list in JSON.  Writing a document may fail,
and then nothing is printed.

## Main definitions

* `Printer` — how a value is written in a notation; `Printer.standard`.
* `DocumentFormat.render` — the text of some documents.
-/

namespace ConfigTree

/-- How a value is written in each notation, or in which words that fails. -/
structure Printer where
  /-- YAML -/
  yaml : Value → Except String String
  /-- JSON -/
  json : Value → Except String String

/-- The printer that a program runs with, which can write every value. -/
def Printer.standard : Printer := ⟨fun v => .ok (Yaml.write v), fun v => .ok (Json.write v)⟩

/-- The text of some documents, or in which words one of them cannot be written. -/
def DocumentFormat.render (format : DocumentFormat) (printer : Printer) (documents : List Value) :
    Except String String :=
  match format, documents with
  | .yaml, _ => do return String.intercalate "---\n" (← documents.mapM printer.yaml)
  | .json, [document] => do return (← printer.json document) ++ "\n"
  | .json, _ => do return (← printer.json (.list documents)) ++ "\n"

/-- The notation that goes by a name, in letters of any case. -/
def DocumentFormat.ofName? (name : String) : Option DocumentFormat :=
  match name.toLower with
  | "yaml" => some .yaml
  | "yml" => some .yaml
  | "json" => some .json
  | _ => none

end ConfigTree
