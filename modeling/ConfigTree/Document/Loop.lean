import ConfigTree.Document.Error
import ConfigTree.Eval.Range

/-!
# Loops

A loop makes an instance of a template for each of its values.  Here it is taken
apart into values, template and key, all of them still unresolved.  The values are a
list, an expression, or a generator with parameters.

## Main definitions

* `Loop` — a loop; `Loop.ofValue` takes one apart.
* `Generator.run` — the values that a generator makes.
* `instanceKey?` — the key of an instance.
-/

namespace ConfigTree

/-- The kinds of generators. -/
inductive Generator.Kind
  /-- A count of evenly spaced floats. -/
  | linspace
  /-- Steps of one size. -/
  | arange
  deriving DecidableEq

/-- The kind of a name. -/
def Generator.Kind.ofName? : String → Option Generator.Kind
  | "linspace" => some .linspace
  | "arange" => some .arange
  | _ => none

/-- The name of a kind. -/
def Generator.Kind.name : Generator.Kind → String
  | .linspace => "linspace"
  | .arange => "arange"

/-- The third parameter of a kind, by all its names; the first is the one used in messages. -/
def Generator.Kind.third : Generator.Kind → List String
  | .linspace => ["count", "num"]
  | .arange => ["step"]

/-- A generator with its parameters as they are written. -/
structure Generator where
  /-- The kind. -/
  kind : Generator.Kind
  /-- Where it starts. -/
  start : Value
  /-- Where it stops. -/
  stop : Value
  /-- How many values there are, or how far apart. -/
  third : Value

/-- Where the values of a loop come from. -/
inductive LoopValues
  /-- From a generator. -/
  | generator (g : Generator)
  /-- From a list of nodes, to be resolved. -/
  | sequence (items : List Value)
  /-- From an expression. -/
  | expression (source : String)

/-- A loop taken apart. -/
structure Loop where
  /-- The values. -/
  values : LoopValues
  /-- The mapping to make instances of. -/
  template : Mapping
  /-- The expression for the key of an instance. -/
  key : Option String

namespace Generator

/-- The value of a parameter under the first of its names that has one. -/
def parameter (kind : Kind) (names : List String) (fields : Mapping) :
    Except DocumentFault Value :=
  match names.findSome? (Entries.get? fields) with
  | some v => .ok v
  | none => .error (.missingParameter kind.name (names.headD ""))

/-- A generator with the given fields. -/
def ofFields (fields : Mapping) : Except DocumentFault Generator := do
  match fields.get? "kind" with
  | none => throw (.malformedLoop .noKind)
  | some (.str name) =>
    match Kind.ofName? name with
    | none => throw (.unknownGenerator name)
    | some kind =>
      let start ← parameter kind ["start"] fields
      let stop ← parameter kind ["stop"] fields
      let third ← parameter kind kind.third fields
      return ⟨kind, start, stop, third⟩
  | some v => throw (.malformedLoop (.generatorKind v.kind))

/-- The number that a parameter is, or whose expression it is. -/
def number (kind : Kind) (name : String) (evaluate : String → Evaluated Value) (v : Value) :
    Except LoopFault Value := do
  let v ← match v with
    | .str source => (evaluate source).mapError (.parameter kind.name name)
    | v => pure v
  if v.isNumber then return v else throw (.notNumber kind.name name v.literal)

/-- The values that a generator makes, ranges on a machine. -/
def run (g : Generator) (M : Number.Machine Evaluated) (evaluate : String → Evaluated Value) :
    Except LoopFault (List Value) := do
  let start ← number g.kind "start" evaluate g.start
  let stop ← number g.kind "stop" evaluate g.stop
  let third ← number g.kind (g.kind.third.headD "") evaluate g.third
  let values := match g.kind with
    | .linspace => Range.linspace start stop third
    | .arange => Range.arange M start stop third
  values.mapError .refused

end Generator

namespace Loop

/-- Where the values of a loop come from. -/
def valuesOf : Option Value → Except DocumentFault LoopValues
  | none => .error (.malformedLoop (.missing "values"))
  | some (.map fields) => (Generator.ofFields fields).map .generator
  | some (.list items) => .ok (.sequence items)
  | some (.str source) => .ok (.expression source)
  | some v => .error (.malformedLoop (.values v.kind))

/-- The template of a loop. -/
def templateOf : Option Value → Except DocumentFault Mapping
  | none => .error (.malformedLoop (.missing "template"))
  | some (.map template) => .ok template
  | some v => .error (.malformedLoop (.template v.kind))

/-- The expression for the keys of a loop. -/
def keyOf : Option Value → Except DocumentFault (Option String)
  | none => .ok none
  | some .null => .ok none
  | some (.str source) => .ok (some source)
  | some v => .error (.malformedLoop (.key v.kind))

/-- The fields of a loop. -/
def fieldNames : List String := ["values", "template", "key"]

/-- The loop that a value describes. -/
def ofValue (v : Value) : Except DocumentFault Loop :=
  match v with
  | .map fields => do
    let values ← valuesOf (Entries.get? fields "values")
    let template ← templateOf (Entries.get? fields "template")
    let key ← keyOf (Entries.get? fields "key")
    match (Entries.keys fields).find? fun field => !fieldNames.contains field with
    | some field => throw (.malformedLoop (.unknownField field))
    | none => return ⟨values, template, key⟩
  | _ => .error (.malformedLoop .notMapping)

end Loop

/-- The key that an instance gets from a value: a text is one, a number or truth value has
one. -/
def instanceKey? : Value → Option String
  | .str s => some s
  | .int n => some (Value.int n).text
  | .float x => some (Value.float x).text
  | .bool b => some (Value.bool b).text
  | _ => none

end ConfigTree
