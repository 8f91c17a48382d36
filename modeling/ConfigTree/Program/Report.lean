import ConfigTree.Document.File
import ConfigTree.Program.Options

/-!
# Reports

What a run comes to, before anything is written: the lines that tell of failures, and
either the output or the fault that there is none for.  There is output only if every
file has been resolved.

## Main definitions

* `ProgramFault` — why there is no output.
* `FileRun`, `Evaluator.fileRun` — what one file of a run comes to.
* `Report` — what a run comes to.
* `Options.report` — the run.
-/

namespace ConfigTree

/-- Why there is no output. -/
inductive ProgramFault
  /-- A document has failed. -/
  | document (cause : Failure)
  /-- The machine has stopped. -/
  | halted
  /-- So many documents have failed, as their logs tell. -/
  | unresolved (count : Nat)
  /-- A document cannot be written in the notation of the output. -/
  | rendering (format : DocumentFormat) (words : String)
  /-- No cipher has the tag. -/
  | unknownCipher (tag : String)
  /-- The file for the output cannot be written. -/
  | unwritable (file : String) (fault : IoFault)

/-- The fault in words. -/
def ProgramFault.message : ProgramFault → String
  | .document cause => cause.message
  | .halted => "arithmetic overflow"
  | .unresolved count => toString count ++ " document(s) could not be resolved"
  | .rendering format words => format.name ++ " output error: " ++ words
  | .unknownCipher tag => "Unknown cipher '" ++ tag ++ "'"
  | .unwritable file fault => "Failed to write " ++ Text.quote file ++ ": " ++ fault.text

/-- What a run comes to. -/
structure Report where
  /-- The lines that tell of failures. -/
  lines : List String
  /-- The output, or why there is none. -/
  outcome : Except ProgramFault String
  /-- The documents asked for. -/
  requests : List Request

/-- The evaluator for one of several files: what it leaves to chance it does not do as for the
others. -/
def Evaluator.forFile (e : Evaluator) (index : Nat) : Evaluator :=
  { e with keys := e.keys.labelled [index] }

/-- What one file of a run comes to. -/
structure FileRun where
  /-- The file. -/
  file : String
  /-- Its document if it has one, or why the run ends with it. -/
  outcome : Except ProgramFault (Option Value)
  /-- What went wrong. -/
  log : Log
  /-- The documents asked for. -/
  requests : List Request

namespace FileRun

/-- The lines that tell of failures. -/
def lines (r : FileRun) : List String := r.log.map fun e => r.file ++ ": " ++ e.message

/-- The document, if there is one. -/
def document? (r : FileRun) : Option Value := r.outcome.toOption.join

/-- Whether the file has no document, which does not end the run. -/
def isAbsent (r : FileRun) : Bool :=
  match r.outcome with
  | .ok none => true
  | _ => false

end FileRun

/-- What the file at a position of a run comes to.  If the machine stops on the way, nothing is
told of the file. -/
def Evaluator.fileRun (e : Evaluator) (d : Disk) (i : Nat) (file : String) : FileRun :=
  let (outcome, log, requests) := (e.forFile i).resolveFile d file []
  let (outcome, log) := e.config.posture.settle (Failure.asDocument file) outcome log
  if hasHalted outcome log then ⟨file, .error .halted, [], requests⟩
  else ⟨file, outcome.mapError .document, log, requests⟩

/-- What the files of a run have come to so far. -/
structure Harvest where
  /-- The lines that tell of failures. -/
  lines : List String
  /-- The documents that are resolved. -/
  documents : List Value
  /-- How many are not. -/
  unresolved : Nat
  /-- The documents asked for. -/
  requests : List Request

/-- What the files have come to, with one more. -/
def Harvest.add (h : Harvest) (r : FileRun) : Harvest where
  lines := h.lines ++ r.lines
  documents := h.documents ++ r.document?.toList
  unresolved := h.unresolved + r.isAbsent.toNat
  requests := h.requests ++ r.requests

namespace Report

/-- The files in order, after what has been harvested.  A failure that is no part of a log ends
everything. -/
def gather (e : Evaluator) (d : Disk) (h : Harvest) : List String → Harvest × Option ProgramFault
  | [] => (h, none)
  | file :: rest =>
    let r := e.fileRun d (h.documents.length + h.unresolved) file
    match r.outcome with
    | .error fault => (h.add r, some fault)
    | .ok _ => gather e d (h.add r) rest

/-- The run over some files. -/
def ofFiles (e : Evaluator) (d : Disk) (printer : Printer) (format : DocumentFormat)
    (files : List String) : Report :=
  let (h, fault?) := gather e d ⟨[], [], 0, []⟩ files
  let outcome : Except ProgramFault String :=
    match fault? with
    | some fault => .error fault
    | none =>
      if h.unresolved = 0 then (format.render printer h.documents).mapError (.rendering format)
      else .error (.unresolved h.unresolved)
  ⟨h.lines, outcome, h.requests⟩

/-- The run that only makes a key. -/
def ofKey (cipher : String) (sealer : Sealer) : Report :=
  match freshKey? cipher sealer .first with
  | some key => ⟨[], .ok (key ++ "\n"), []⟩
  | none => ⟨[], .error (.unknownCipher cipher), []⟩

end Report

/-- The run that some options ask for. -/
def Options.report (o : Options) (d : Disk) (sealer : Sealer) (printer : Printer) : Report :=
  if o.generateKey then .ofKey o.cipher sealer
  else .ofFiles (.onDisk o.config d sealer) d printer o.format o.files

end ConfigTree
