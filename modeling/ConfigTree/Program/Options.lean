import ConfigTree.Program.Arguments
import ConfigTree.Program.Settings

/-!
# Options

What a run is to do, from the command line and a file of settings.  The command line
wins.

## Main definitions

* `readAssignment?` — a key and a value in one text.
* `Options`, `Options.combine` — the options in force.
* `Options.load` — the same with the settings read from a disk.
-/

namespace ConfigTree

/-- Why no options are in force. -/
inductive OptionsFault
  /-- The file of settings cannot be read. -/
  | file (fault : IoFault)
  /-- The file of settings is not in its notation, or has a setting of a wrong kind. -/
  | settings
  /-- A text is no assignment. -/
  | assignment (text : String)
  /-- No notation of the output has the name. -/
  | format (name : String)

/-- The fault in words. -/
def OptionsFault.message : OptionsFault → String
  | .file fault => "Failed to read config file: " ++ fault.text
  | .settings => "Failed to parse TOML"
  | .assignment text => "Expected KEY=VALUE, got '" ++ text ++ "'"
  | .format name => "Unknown output format '" ++ name ++ "'"

/-! ### Assignments -/

/-- The value of an assignment: a scalar in YAML, or else the text itself. -/
def assignedValue (text : String) : Value :=
  if Text.isAllBlank text.toList then .str text
  else
    match Yaml.read text with
    | .ok (.list _) => .str text
    | .ok (.map _) => .str text
    | .ok v => v
    | .error _ => .str text

/-- A key and a value, with an equals sign between them.  White space around the key does not
count; there must be something else. -/
def readAssignment? (text : String) : Option (String × Value) :=
  let cs := text.toList
  let key := Text.trim (cs.takeWhile (· != '='))
  match cs.dropWhile (· != '=') with
  | [] => none
  | _ :: value =>
    if key.isEmpty then none
    else some (String.ofList key, assignedValue (String.ofList value))

/-- A mapping with some assignments made in order. -/
def assignAll (m : Mapping) (assignments : List String) : Except OptionsFault Mapping :=
  assignments.foldlM (fun m text =>
    match readAssignment? text with
    | some (key, v) => .ok (m.insert key v)
    | none => .error (.assignment text)) m

/-! ### Options -/

/-- What a run is to do. -/
structure Options where
  /-- The files to resolve. -/
  files : List String
  /-- Parameters. -/
  params : Mapping
  /-- Names. -/
  names : Mapping
  /-- The folders to import from. -/
  includes : List String
  /-- The tag of the cipher. -/
  cipher : String
  /-- The notation of the output. -/
  format : DocumentFormat
  /-- The file for the output. -/
  output : Option String
  /-- Whether a failure ends everything. -/
  strict : Bool
  /-- Whether nothing is wanted but a fresh key. -/
  generateKey : Bool

namespace Options

/-- The folders in a list of them; empty ones do not count.  Without anything between them each is
a single character. -/
def folders (separator list : String) : List String :=
  let parts := match separator.toList with
    | [] => list.toList.map fun c => [c]
    | sep => Text.splitOn sep list.toList
  (parts.filter (!·.isEmpty)).map String.ofList

/-- The notation of the output. -/
def formatOf (given : Option DocumentFormat) (setting : Option String) :
    Except OptionsFault DocumentFormat :=
  match given, setting with
  | some format, _ => .ok format
  | none, none => .ok .yaml
  | none, some name =>
    match DocumentFormat.ofName? name with
    | some format => .ok format
    | none => .error (.format name)

/-- The tag of the cipher: given, set, a parameter, or the default. -/
def cipherOf (given setting : Option String) (params : Mapping) : String :=
  ((given.or setting).or ((params.get? "etype").bind Value.str?)).getD defaultTag

/-- The parameters with the tag of the cipher, and with the key if there is one. -/
def withCipher (params : Mapping) (cipher : String) (key : Option String) : Mapping :=
  let params := params.insert "etype" (.str cipher)
  match key with
  | some key => params.insert "ekey" (.str key)
  | none => params

/-- The options in force. -/
def combine (a : Arguments) (s : Settings) : Except OptionsFault Options := do
  let params ← assignAll s.params a.params
  let names ← assignAll s.names a.names
  let cipher := cipherOf a.cipher s.cipher params
  let separator := (a.separator.or s.separator).getD ":"
  return {
    files := a.files
    params := withCipher params cipher (a.key.or s.key)
    names := names
    includes := folders separator ((a.includes.or s.includes).getD ".")
    cipher := cipher
    format := ← formatOf a.format s.format
    output := a.output
    strict := a.strict || s.strict.getD false
    generateKey := a.generateKey }

/-- The settings that a command line asks for.  A file that it names must be there. -/
def settings (a : Arguments) (d : Disk) : Except OptionsFault Settings :=
  let read (text : String) : Except OptionsFault Settings :=
    match Settings.ofText? text with
    | some s => .ok s
    | none => .error .settings
  match a.config with
  | some name =>
    match d.text name with
    | .ok text => read text
    | .error fault => .error (.file fault)
  | none =>
    match d.text Settings.defaultFile with
    | .ok text => read text
    | .error .missing => .ok .empty
    | .error fault => .error (.file fault)

/-- The options that a command line puts in force, with the settings of a disk. -/
def load (a : Arguments) (d : Disk) : Except OptionsFault Options := do
  combine a (← settings a d)

/-- The posture in which documents are resolved. -/
def posture (o : Options) : Posture := if o.strict then .strict else .tolerant

/-- The configuration under which documents are resolved. -/
def config (o : Options) : Config := ⟨o.names, o.params, o.includes, o.posture⟩

end Options

end ConfigTree
