import ConfigTree.Eval.Error
import ConfigTree.Text.Quoted
import ConfigTree.TreePath

/-!
# Failures of documents

Why a document cannot be read, and why one that was read cannot be resolved.  The
latter ends the resolution, since what the document is meant to look like cannot be
told any more.  A log keeps these and the failures of single texts in the order in
which they arose.

## Main definitions

* `LoadError` — a document that cannot be read.
* `DocumentError` — a document that cannot be resolved, with the place at fault.
* `Failure` — either of the two.
* `LogEntry`, `Log` — what went wrong, and where.
* `Log.halts`, `hasHalted` — whether the machine has stopped on the way.
-/

namespace ConfigTree

/-! ### Reading -/

/-- Why the system refuses a file. -/
inductive IoFault
  /-- Nothing has the name. -/
  | missing
  /-- A part of the name that is not its last is no folder. -/
  | notFolder
  /-- A folder is no text. -/
  | isFolder
  /-- The file may not be used. -/
  | denied
  /-- A part of the name is too long. -/
  | longName
  /-- The name holds the character that ends names. -/
  | badName
  /-- The contents are no text. -/
  | notText
  /-- Anything else, in the words of the system. -/
  | other (words : String)

/-- The fault in words. -/
def IoFault.text : IoFault → String
  | .missing => "No such file or directory (os error 2)"
  | .notFolder => "Not a directory (os error 20)"
  | .isFolder => "Is a directory (os error 21)"
  | .denied => "Permission denied (os error 13)"
  | .longName => "File name too long (os error 36)"
  | .badName => "file name contained an unexpected NUL byte"
  | .notText => "stream did not contain valid UTF-8"
  | .other words => words

/-- The notations of documents. -/
inductive DocumentFormat
  /-- YAML -/
  | yaml
  /-- JSON -/
  | json
  deriving DecidableEq

/-- The name of the notation. -/
def DocumentFormat.name : DocumentFormat → String
  | .yaml => "YAML"
  | .json => "JSON"

/-- Why a document cannot be read. -/
inductive LoadError
  /-- Nothing is found under the reference. -/
  | notFound (reference : String)
  /-- The system refuses a file. -/
  | io (file : String) (fault : IoFault)
  /-- The text of a file is not in its notation. -/
  | malformed (format : DocumentFormat) (file : String)

/-- The failure in words. -/
def LoadError.message : LoadError → String
  | .notFound reference => "Document not found: " ++ reference
  | .io file fault => "Cannot read " ++ Text.quote file ++ ": " ++ fault.text
  | .malformed format file => format.name ++ " error in " ++ Text.quote file ++ ":"

/-! ### Resolving -/

/-- What is wrong with the values of a loop, its template or its keys. -/
inductive LoopFault
  /-- The loop is no mapping. -/
  | notMapping
  /-- A field that must be there is not. -/
  | missing (field : String)
  /-- The values are neither list nor mapping nor text. -/
  | values (kind : Kind)
  /-- The template is no mapping. -/
  | template (kind : Kind)
  /-- The key is no text. -/
  | key (kind : Kind)
  /-- A field that is not known. -/
  | unknownField (field : String)
  /-- A generator without a kind. -/
  | noKind
  /-- The kind of a generator is no text. -/
  | generatorKind (kind : Kind)
  /-- A parameter of a generator that has no value. -/
  | parameter (generator name : String) (cause : EvalError)
  /-- A parameter of a generator that is no number but the given literal. -/
  | notNumber (generator name literal : String)
  /-- The generator refuses its parameters. -/
  | refused (cause : EvalError)
  /-- The values are written as an expression, which has another kind of value than a list. -/
  | notList (source : String) (kind : Kind)
  /-- The values are written as an expression, which has no value. -/
  | valuesFailed (source : String) (cause : EvalError)
  /-- The key of an instance is of a kind that cannot be one. -/
  | instanceKey (source : String) (kind : Kind)

/-- The fault in words. -/
def LoopFault.text : LoopFault → String
  | .notMapping => "expected a mapping with 'values' and 'template'"
  | .missing field => "missing '" ++ field ++ "'"
  | .values kind => "'values' cannot be a " ++ kind.name
  | .template kind => "'template' must be a mapping, not " ++ kind.name
  | .key kind => "'key' must be an expression string, not " ++ kind.name
  | .unknownField field => "unknown field '" ++ field ++ "'"
  | .noKind => "generator without 'kind'"
  | .generatorKind kind => "generator 'kind' must be a string, not " ++ kind.name
  | .parameter generator name cause =>
    generator ++ " parameter '" ++ name ++ "': " ++ cause.message
  | .notNumber generator name literal =>
    generator ++ " parameter '" ++ name ++ "' must be a number, got " ++ literal
  | .refused cause => cause.message
  | .notList source kind =>
    "'values' expression " ++ Text.quote source ++ " produced " ++ kind.name ++ ", expected a list"
  | .valuesFailed source cause =>
    "'values' expression " ++ Text.quote source ++ " failed: " ++ cause.message
  | .instanceKey source kind =>
    "key " ++ Text.quote source ++ " produced " ++ kind.name ++ ", expected a string or number"

/-- Why a directive cannot be followed. -/
inductive DirectiveFault
  /-- Another one for the same purpose comes before it. -/
  | conflict (previous : String)
  /-- It takes no value of this kind. -/
  | operand (kind : Kind)
  /-- It updates with something other than a mapping. -/
  | updates (kind : Kind)
  /-- It imports a document that holds something other than a mapping. -/
  | imported (reference : String) (kind : Kind)

/-- The fault in words. -/
def DirectiveFault.text : DirectiveFault → String
  | .conflict previous => "conflicts with '" ++ previous ++ "' in the same mapping"
  | .operand kind => "cannot take a " ++ kind.name
  | .updates kind => "expected a mapping, got " ++ kind.name
  | .imported reference kind => "'" ++ reference ++ "' holds a " ++ kind.name ++ ", not a mapping"

/-- Why a reference is to nothing useful. -/
inductive ReferenceFault
  /-- It is to something other than a mapping. -/
  | notMapping (kind : Kind)
  /-- It has no value. -/
  | failed (cause : EvalError)

/-- The fault in words. -/
def ReferenceFault.text : ReferenceFault → String
  | .notMapping kind => "expected a mapping, got " ++ kind.name
  | .failed cause => cause.message

/-- What is wrong with a document. -/
inductive DocumentFault
  /-- A loop is malformed. -/
  | malformedLoop (fault : LoopFault)
  /-- No generator is of this kind. -/
  | unknownGenerator (kind : String)
  /-- A generator lacks a parameter. -/
  | missingParameter (generator parameter : String)
  /-- A reference is to nothing useful. -/
  | unresolved (reference : String) (fault : ReferenceFault)
  /-- A directive cannot be followed. -/
  | directive (name : String) (fault : DirectiveFault)
  /-- An imported document cannot be read. -/
  | importing (reference : String) (cause : LoadError)
  /-- A file is imported while it is being resolved. -/
  | circularImport (file : String)
  /-- Imports are nested deeper than is followed. -/
  | importDepth
  /-- Two instances of a loop have one key. -/
  | duplicateKey (key : String)

/-- The fault in words. -/
def DocumentFault.text : DocumentFault → String
  | .malformedLoop fault => "malformed foreach: " ++ fault.text
  | .unknownGenerator kind => "unknown generator kind '" ++ kind ++ "'"
  | .missingParameter generator parameter =>
    "generator '" ++ generator ++ "' is missing parameter '" ++ parameter ++ "'"
  | .unresolved reference fault => "cannot resolve '" ++ reference ++ "': " ++ fault.text
  | .directive name fault => "invalid directive '" ++ name ++ "': " ++ fault.text
  | .importing reference cause => "import of '" ++ reference ++ "' failed: " ++ cause.message
  | .circularImport file => "circular import of " ++ Text.quote file
  | .importDepth => "imports nested too deep"
  | .duplicateKey key => "duplicate generated key '" ++ key ++ "'"

/-- What is wrong with a document, and where in it. -/
structure DocumentError where
  /-- The place at fault. -/
  path : TreePath
  /-- The fault. -/
  fault : DocumentFault

/-- The failure in words. -/
def DocumentError.message (e : DocumentError) : String := e.path.text ++ ": " ++ e.fault.text

/-- Why there is no resolved document. -/
inductive Failure
  /-- It cannot be resolved. -/
  | document (e : DocumentError)
  /-- It cannot be read. -/
  | load (e : LoadError)

/-- The failure in words. -/
def Failure.message : Failure → String
  | .document e => e.message
  | .load e => e.message

/-! ### The log -/

/-- What is logged. -/
inductive LogCause
  /-- A text without a value, which was kept as it is. -/
  | kept (e : EvalError)
  /-- The end of a resolution. -/
  | fatal (e : DocumentError)

/-- The cause in words. -/
def LogCause.message : LogCause → String
  | .kept e => e.message
  | .fatal e => e.message

/-- Something that went wrong, and where. -/
structure LogEntry where
  /-- The place. -/
  path : TreePath
  /-- What went wrong. -/
  cause : LogCause

/-- The entry in words. -/
def LogEntry.message (e : LogEntry) : String := e.path.text ++ ": " ++ e.cause.message

/-- What went wrong, in the order in which it did. -/
abbrev Log := List LogEntry

namespace Log

/-- The log with a text that was kept. -/
def addKept (log : Log) (path : TreePath) (e : EvalError) : Log := log ++ [⟨path, .kept e⟩]

/-- The log with the end of a resolution. -/
def addFatal (log : Log) (e : DocumentError) : Log := log ++ [⟨e.path, .fatal e⟩]

/-- Why the text at a place was kept, each time it was. -/
def keptAt (log : Log) (path : TreePath) : List EvalError :=
  log.filterMap fun e =>
    match e.cause with
    | .kept cause => if e.path = path then some cause else none
    | .fatal _ => none

/-- Whether a resolution has ended. -/
def hasFatal (log : Log) : Bool :=
  log.any fun e =>
    match e.cause with
    | .kept _ => false
    | .fatal _ => true

end Log

/-! ### Halts -/

/-- The machine has stopped. -/
def EvalError.isHalt : EvalError → Bool
  | .halted => true
  | _ => false

/-- The evaluation that failed, if the fault comes from one. -/
def LoopFault.cause? : LoopFault → Option EvalError
  | .parameter _ _ cause => some cause
  | .refused cause => some cause
  | .valuesFailed _ cause => some cause
  | _ => none

/-- The evaluation that failed, if the fault comes from one. -/
def DocumentFault.cause? : DocumentFault → Option EvalError
  | .malformedLoop fault => fault.cause?
  | .unresolved _ (.failed cause) => some cause
  | _ => none

/-- The evaluation that failed, if the cause comes from one. -/
def LogCause.cause? : LogCause → Option EvalError
  | .kept e => some e
  | .fatal e => e.fault.cause?

/-- The evaluation that failed, if the failure comes from one. -/
def Failure.cause? : Failure → Option EvalError
  | .document e => e.fault.cause?
  | .load _ => none

/-- Whether the machine has stopped in one of the evaluations that a log tells of. -/
def Log.halts (log : Log) : Bool := log.any fun e => e.cause.cause?.any EvalError.isHalt

/-- Whether the machine has stopped on the way to an outcome. -/
def hasHalted {α : Type} (outcome : Except Failure α) (log : Log) : Bool :=
  match outcome with
  | .ok _ => log.halts
  | .error e => e.cause?.any EvalError.isHalt || log.halts

end ConfigTree
