import ConfigTree.Document.Walk

/-!
# Evaluators

An evaluator resolves documents under one configuration, and evaluates single
expressions under the same.  A resolution leaves nothing behind in it; only a new key
changes it.

A document that cannot be resolved ends the matter in one of two postures: either the
caller gets the failure, or the failure is logged and there is no result.

## Main definitions

* `Config` — names, parameters, folders to import from, posture.
* `Evaluator` — a configuration with functions, operators, keys and documents.
* `Evaluator.evaluate` — the value of an expression.
* `Evaluator.resolve` — a resolution with all that it leaves.
* `Evaluator.strict`, `tolerant`, `run` — the outcome in one or the other posture.
* `Evaluator.newKey` — a fresh key, and the evaluator with it.
-/

namespace ConfigTree

/-- What a failure does at the end. -/
inductive Posture
  /-- It is logged, and there is no result. -/
  | tolerant
  /-- It is the result. -/
  | strict
  deriving DecidableEq

/-- What a resolution is configured with. -/
structure Config where
  /-- Names that every expression sees. -/
  names : Mapping
  /-- What every expression sees as `P`; `etype` and `ekey` choose cipher and key. -/
  params : Mapping
  /-- The folders to look for imported documents in. -/
  includes : List String
  /-- The posture. -/
  posture : Posture

/-- The configuration that sets nothing. -/
def Config.empty : Config := ⟨[], [], ["."], .tolerant⟩

/-- A way to resolve documents. -/
structure Evaluator where
  /-- The configuration. -/
  config : Config
  /-- The functions. -/
  functions : FunctionTable
  /-- The operators. -/
  operators : OperatorTable
  /-- The keys. -/
  keys : Keyring
  /-- The documents to import. -/
  library : Library
  /-- The machine that the ranges of loops are computed on. -/
  machine : Number.Machine Evaluated

/-- What a resolution leaves. -/
structure Run where
  /-- The resolved document, or why there is none. -/
  outcome : Except DocumentError Value
  /-- The log. -/
  log : Log
  /-- The documents asked for. -/
  requests : List Request

/-- An outcome in a posture.  A failure to be logged is one of a document; `asDocument` makes it
one. -/
def Posture.settle (posture : Posture) (asDocument : Failure → DocumentError)
    (outcome : Except Failure Value) (log : Log) : Except Failure (Option Value) × Log :=
  match posture, outcome with
  | _, .ok v => (.ok (some v), log)
  | .strict, .error e => (.error e, log)
  | .tolerant, .error e => (.ok none, log.addFatal (asDocument e))

/-- A failure as one of a document: a file that cannot be read counts as one that the root
imports. -/
def Failure.asDocument (file : String) : Failure → DocumentError
  | .document e => e
  | .load e => ⟨[], .importing file e⟩

namespace Evaluator

/-- The evaluator with all functions and the standard operators, on the machine that stops at an
overflow. -/
def make (config : Config) (library : Library) (sealer : Sealer) : Evaluator where
  config := config
  functions := .standard Range.halting
  operators := .standard
  keys := .ofParameters config.params sealer .first
  library := library
  machine := Range.halting

/-- The names that every expression sees, and the parameters. -/
def scope (e : Evaluator) : Scope :=
  Scope.enter [⟨.globals, e.config.names⟩] .params [("P", .map e.config.params)]

/-- What an expression outside of a document can use. -/
def environment (e : Evaluator) : Environment :=
  { scope := e.scope, root := .map [], current := .map [],
    functions := e.functions, operators := e.operators, keys := e.keys }

/-- The value of an expression outside of a document. -/
def evaluate (e : Evaluator) (source : String) : Evaluated Value := e.environment.evaluate source

/-- A document resolved, with its file if it came from one. -/
def resolve (e : Evaluator) (document : Value) (file : Option String) (log : Log) : Run :=
  let setting : Surroundings := ⟨e.functions, e.operators, e.keys, e.machine⟩
  let (outcome, done) := (walkDocument e.library setting document e.scope).run (.start file log)
  ⟨outcome, done.log, done.requests⟩

/-- A document resolved, or why it cannot be. -/
def strict (e : Evaluator) (document : Value) (log : Log) : Except Failure Value × Log :=
  let run := e.resolve document none log
  (run.outcome.mapError .document, run.log)

/-- A document resolved, if it can be; why it cannot be is logged. -/
def tolerant (e : Evaluator) (document : Value) (log : Log) : Option Value × Log :=
  let run := e.resolve document none log
  match run.outcome with
  | .ok v => (some v, run.log)
  | .error e => (none, run.log.addFatal e)

/-- A document resolved in the posture of the configuration. -/
def run (e : Evaluator) (document : Value) (log : Log) : Except Failure (Option Value) × Log :=
  match e.config.posture with
  | .strict =>
    let (outcome, log) := e.strict document log
    (outcome.map some, log)
  | .tolerant =>
    let (outcome, log) := e.tolerant document log
    (.ok outcome, log)

/-- A fresh key for the cipher that the parameters name, and the evaluator with it; the parameters
then hold the key.  An unknown cipher has none, and then they hold nothing. -/
def newKey (e : Evaluator) : Option String × Evaluator :=
  let tag := ((e.config.params.get? "etype").bind Value.str?).getD e.keys.tag
  let keys := { e.keys with tag := tag }.renew
  let stored := match keys.key with
    | some key => Value.str key
    | none => .null
  let config := { e.config with params := e.config.params.insert "ekey" stored }
  (keys.key, { e with keys := keys, config := config })

end Evaluator

end ConfigTree
