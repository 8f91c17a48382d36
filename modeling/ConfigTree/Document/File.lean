import ConfigTree.Files.Disk

/-!
# Documents in files

## Main definitions

* `Evaluator.onDisk` — an evaluator that imports from a disk.
* `Evaluator.resolveFile` — the document in a file, resolved.
* `Evaluator.strictFile`, `runFile` — the outcome, as a failure or in a posture.
* `Config.load`, `Config.loadStrict` — the same under a configuration, whatever its posture.
-/

namespace ConfigTree.Evaluator

/-- An evaluator for the documents of a disk. -/
def onDisk (config : Config) (d : Disk) (sealer : Sealer) : Evaluator :=
  make config (d.library config.includes) sealer

/-- The document under a name, resolved, with all that the resolution leaves.  It counts as
imported, so that it cannot import itself. -/
def resolveFile (e : Evaluator) (d : Disk) (name : String) (log : Log) :
    Except Failure Value × Log × List Request :=
  match d.read name with
  | .error cause => (.error (.load cause), log, [])
  | .ok document =>
    let run := e.resolve document.content document.file log
    (run.outcome.mapError .document, run.log, run.requests)

/-- The document under a name, resolved, or why it cannot be. -/
def strictFile (e : Evaluator) (d : Disk) (name : String) (log : Log) :
    Except Failure Value × Log :=
  let (outcome, log, _) := e.resolveFile d name log
  (outcome, log)

/-- The document under a name in a posture.  A file that cannot be read is logged as one that the
root cannot import. -/
def runFileIn (e : Evaluator) (posture : Posture) (d : Disk) (name : String) (log : Log) :
    Except Failure (Option Value) × Log :=
  let (outcome, log) := e.strictFile d name log
  posture.settle (Failure.asDocument name) outcome log

/-- The document under a name in the posture of the configuration. -/
def runFile (e : Evaluator) (d : Disk) (name : String) (log : Log) :
    Except Failure (Option Value) × Log :=
  e.runFileIn e.config.posture d name log

end ConfigTree.Evaluator

namespace ConfigTree.Config

/-- The document under a name, resolved under a configuration if it can be; why it cannot be is
logged, whatever the posture. -/
def load (c : Config) (d : Disk) (sealer : Sealer) (name : String) (log : Log) :
    Option Value × Log :=
  let tolerant := { c with posture := .tolerant }
  let (outcome, log) := (Evaluator.onDisk tolerant d sealer).runFile d name log
  (outcome.toOption.join, log)

/-- The document under a name, resolved under a configuration, or why it cannot be, whatever the
posture. -/
def loadStrict (c : Config) (d : Disk) (sealer : Sealer) (name : String) (log : Log) :
    Except Failure Value × Log := (Evaluator.onDisk c d sealer).strictFile d name log

end ConfigTree.Config
