import ConfigTree.Document.Print

/-!
# Arguments

The arguments of the command line are read from left to right.  An option has its
value behind an equals sign or as the next argument; a value of the second kind is
looked at only when the next option or file comes up, or at the end, so that a
mistake in between is reported first.  After a double dash every argument is a file.

## Main definitions

* `Arguments` — what the command line says.
* `ArgumentFault` — why it says nothing useful.
* `Arguments.parse` — reading it.
-/

namespace ConfigTree

/-- Why a command line cannot be followed. -/
inductive ArgumentFault
  /-- Help is asked for. -/
  | help
  /-- No option has the name. -/
  | unknown (name : String)
  /-- An option lacks its value, or cannot have the one that it is given. -/
  | value (name : String)
  /-- An option that may be given once is given again. -/
  | repeated (name : String)
  /-- A switch is given a value. -/
  | needless (name : String)
  /-- No file is given. -/
  | noFiles

/-- The fault in words. -/
def ArgumentFault.message : ArgumentFault → String
  | .help => "Usage: [OPTIONS] <FILES>..."
  | .unknown name => "unexpected argument '" ++ name ++ "'"
  | .value name => "no value or a wrong one for '--" ++ name ++ "'"
  | .repeated name => "'--" ++ name ++ "' cannot be used several times"
  | .needless name => "'--" ++ name ++ "' takes no value"
  | .noFiles => "no documents given"

/-- The options with a value. -/
inductive ValueOption
  /-- `--param` -/
  | param
  /-- `--name` -/
  | name
  /-- `--ekey` -/
  | key
  /-- `--etype` -/
  | cipher
  /-- `--include` -/
  | includes
  /-- `--pathsep` -/
  | separator
  /-- `--format` -/
  | format
  /-- `--output` -/
  | output
  /-- `--config` -/
  | config
  deriving DecidableEq

/-- The options without a value. -/
inductive Switch
  /-- `--strict` -/
  | strict
  /-- `--generate-key` -/
  | generateKey
  /-- `--verbose` -/
  | verbose
  /-- `--help` -/
  | help

/-- An option of either sort. -/
inductive ProgramOption
  /-- With a value. -/
  | valued (o : ValueOption)
  /-- Without. -/
  | switch (s : Switch)

/-- The name of an option, behind two dashes. -/
def ValueOption.text : ValueOption → String
  | .param => "param"
  | .name => "name"
  | .key => "ekey"
  | .cipher => "etype"
  | .includes => "include"
  | .separator => "pathsep"
  | .format => "format"
  | .output => "output"
  | .config => "config"

/-- The name of a switch, behind two dashes. -/
def Switch.text : Switch → String
  | .strict => "strict"
  | .generateKey => "generate-key"
  | .verbose => "verbose"
  | .help => "help"

namespace ProgramOption

/-- All options. -/
def all : List ProgramOption :=
  [ValueOption.param, .name, .key, .cipher, .includes, .separator, .format, .output,
    .config].map .valued
  ++ [Switch.strict, .generateKey, .verbose, .help].map .switch

/-- The name of the option. -/
def text : ProgramOption → String
  | .valued o => o.text
  | .switch s => s.text

/-- The option of a name. -/
def ofName? (name : String) : Option ProgramOption := all.find? fun o => o.text == name

/-- The option of a letter, behind a single dash. -/
def ofLetter? : Char → Option ProgramOption
  | 'o' => some (.valued .output)
  | 'v' => some (.switch .verbose)
  | 'h' => some (.switch .help)
  | _ => none

end ProgramOption

/-- What a command line says. -/
structure Arguments where
  /-- The files to resolve. -/
  files : List String
  /-- The assignments of parameters. -/
  params : List String
  /-- The assignments of names. -/
  names : List String
  /-- The key. -/
  key : Option String
  /-- The tag of the cipher. -/
  cipher : Option String
  /-- The folders to import from. -/
  includes : Option String
  /-- What stands between these. -/
  separator : Option String
  /-- The notation of the output. -/
  format : Option DocumentFormat
  /-- The file for the output. -/
  output : Option String
  /-- The file of settings. -/
  config : Option String
  /-- Whether a failure ends everything. -/
  strict : Bool
  /-- Whether nothing is wanted but a fresh key. -/
  generateKey : Bool
  /-- How much is to be told. -/
  verbosity : Nat

namespace Arguments

/-- The command line that says nothing. -/
def empty : Arguments :=
  { files := [], params := [], names := [], key := none, cipher := none, includes := none,
    separator := none, format := none, output := none, config := none, strict := false,
    generateKey := false, verbosity := 0 }

/-- The notation of the output by its exact name. -/
def formatOf? : String → Option DocumentFormat
  | "yaml" => some .yaml
  | "json" => some .json
  | _ => none

/-- A value where there must be none yet. -/
def once {α : Type} (o : ValueOption) (present : Option α) (value : α) :
    Except ArgumentFault (Option α) :=
  if present.isSome then .error (.repeated o.text) else .ok (some value)

/-- The name of a file, which must not be empty, where there must be none yet. -/
def onceFile (o : ValueOption) (present : Option String) (value : String) :
    Except ArgumentFault (Option String) := do
  let file ← once o present value
  if value == "" then throw (.value o.text) else return file

/-- The arguments with the value of an option. -/
def give (a : Arguments) (o : ValueOption) (value : String) : Except ArgumentFault Arguments := do
  match o with
  | .param => return { a with params := a.params ++ [value] }
  | .name => return { a with names := a.names ++ [value] }
  | .key => return { a with key := ← once o a.key value }
  | .cipher => return { a with cipher := ← once o a.cipher value }
  | .includes => return { a with includes := ← once o a.includes value }
  | .separator => return { a with separator := ← once o a.separator value }
  | .output => return { a with output := ← onceFile o a.output value }
  | .config => return { a with config := ← onceFile o a.config value }
  | .format =>
    if a.format.isSome then throw (.repeated o.text)
    else
      match formatOf? value with
      | some format => return { a with format := some format }
      | none => throw (.value o.text)

/-- The arguments with a switch on. -/
def turnOn (a : Arguments) (s : Switch) : Except ArgumentFault Arguments :=
  match s with
  | .strict => if a.strict then .error (.repeated s.text) else .ok { a with strict := true }
  | .generateKey =>
    if a.generateKey then .error (.repeated s.text) else .ok { a with generateKey := true }
  | .verbose => .ok { a with verbosity := a.verbosity + 1 }
  | .help => .error .help

/-- The arguments with some files; none may lack a name. -/
def addFiles (a : Arguments) (files : List String) : Except ArgumentFault Arguments :=
  if files.contains "" then .error (.value "files") else .ok { a with files := a.files ++ files }

/-! ### Reading from left to right -/

/-- What has been read but not been looked at. -/
inductive Pending
  /-- Nothing. -/
  | nothing
  /-- Files. -/
  | files (names : List String)
  /-- An option, and its value if it has been read. -/
  | valued (o : ValueOption) (value : Option String)

/-- How far a command line has been read. -/
structure Reading where
  /-- What has been looked at. -/
  given : Arguments
  /-- What has not. -/
  pending : Pending
  /-- Whether a double dash has been read. -/
  filesOnly : Bool

namespace Reading

/-- The start. -/
def start : Reading := ⟨.empty, .nothing, false⟩

/-- Looks at what is pending. -/
def settle (r : Reading) : Except ArgumentFault Arguments :=
  match r.pending with
  | .nothing => .ok r.given
  | .files names => r.given.addFiles names
  | .valued o none => .error (.value o.text)
  | .valued o (some value) => r.given.give o value

/-- Reads an option whose value, if it takes one and has one here, is known. -/
def option (r : Reading) (o : ProgramOption) (value : Option String) :
    Except ArgumentFault Reading := do
  match o, value with
  | .switch s, some _ => throw (.needless s.text)
  | .switch s, none => return { r with given := ← (← r.settle).turnOn s, pending := .nothing }
  | .valued o, none => return { r with given := ← r.settle, pending := .valued o none }
  | .valued o, some v => return { r with given := ← (← r.settle).give o v, pending := .nothing }

/-- Reads the letters behind a single dash.  An option with a value takes all letters that follow
for it, an equals sign in front left out. -/
def letters (r : Reading) : List Char → Except ArgumentFault Reading
  | [] => .ok r
  | c :: cs =>
    match ProgramOption.ofLetter? c with
    | none => .error (.unknown (String.ofList ['-', c]))
    | some (.valued o) =>
      match cs with
      | [] => r.option (.valued o) none
      | '=' :: value => r.option (.valued o) (some (String.ofList value))
      | value => r.option (.valued o) (some (String.ofList value))
    | some (.switch s) => do (← r.option (.switch s) none).letters cs

/-- Reads an option by its name, which an equals sign may follow. -/
def named (r : Reading) (cs : List Char) : Except ArgumentFault Reading :=
  let name := String.ofList (cs.takeWhile (· != '='))
  match ProgramOption.ofName? name, cs.dropWhile (· != '=') with
  | none, _ => .error (.unknown ("--" ++ name))
  | some o, [] => r.option o none
  | some o, _ :: value => r.option o (some (String.ofList value))

/-- Reads a file. -/
def file (r : Reading) (name : String) : Except ArgumentFault Reading := do
  match r.pending with
  | .files names => return { r with pending := .files (names ++ [name]) }
  | _ => return { r with given := ← r.settle, pending := .files [name] }

/-- Reads an argument that is no option: the value of the one before, or a file. -/
def plain (r : Reading) (argument : String) : Except ArgumentFault Reading :=
  match r.pending with
  | .valued o none => .ok { r with pending := .valued o (some argument) }
  | _ => r.file argument

/-- Reads one argument. -/
def next (r : Reading) (argument : String) : Except ArgumentFault Reading :=
  if r.filesOnly then r.file argument
  else
    match argument.toList with
    | ['-', '-'] => .ok { r with filesOnly := true }
    | '-' :: '-' :: cs => r.named cs
    | '-' :: c :: cs => r.letters (c :: cs)
    | _ => r.plain argument

end Reading

/-- What a command line says. -/
def parse (arguments : List String) : Except ArgumentFault Arguments := do
  let a ← (← arguments.foldlM Reading.next .start).settle
  if a.files.isEmpty && !a.generateKey then throw .noFiles else return a

end Arguments

end ConfigTree
