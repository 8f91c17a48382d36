import ConfigTree.Cipher.Keyring
import ConfigTree.Eval.Range
import ConfigTree.Eval.Scope
import ConfigTree.Eval.Template
import ConfigTree.Files.Path
import ConfigTree.Number.Decimal
import ConfigTree.Text.Blank
import ConfigTree.Text.Case
import ConfigTree.Value.Order

/-!
# Functions

The functions that an expression can call, by name.  A function sees its arguments, and
of the place where it is called all that an expression there sees: the scope, `R` and `S`,
and the keys in use.

## Main definitions

* `Caller` — what a function sees besides its arguments.
* `Function` — what a function does.
* `FunctionTable` — functions by name; `FunctionTable.standard` has them all.
-/

namespace ConfigTree

/-- What a function sees of the place where it is called. -/
structure Caller extends Sight where
  /-- The keys. -/
  keys : Keyring

/-- The same place, with an occasion of its own. -/
def Caller.labelled (c : Caller) (label : List Nat) : Caller :=
  { c with keys := c.keys.labelled label }

@[simp] theorem Caller.keys_labelled (c : Caller) (label : List Nat) :
    (c.labelled label).keys = c.keys.labelled label := rfl

@[simp] theorem Caller.toSight_labelled (c : Caller) (label : List Nat) :
    (c.labelled label).toSight = c.toSight := rfl

/-- What a function makes of its arguments where it is called. -/
abbrev Function := Caller → List Value → Evaluated Value

/-- Functions by name. -/
abbrev FunctionTable := Entries Function

namespace Function

/-- Checks the number of arguments. -/
def checkArity (name : String) (expected : Arity) (args : List Value) : Evaluated Unit :=
  if expected.admits args.length then .ok ()
  else .error (.arity name expected args.length)

/-- The text of an argument that has to be a string. -/
def string (name : String) (v : Value) : Evaluated String :=
  match v with
  | .str s => .ok s
  | v => .error (.type (.notString name v.kind))

/-- A function of one argument. -/
def ofOne (name : String) (f : Caller → Value → Evaluated Value) : Function := fun caller args =>
  match args with
  | [v] => f caller v
  | _ => .error (.arity name (.exactly 1) args.length)

/-- A function of one string. -/
def ofString (name : String) (f : Caller → String → Evaluated Value) : Function :=
  ofOne name fun caller v => do f caller (← string name v)

/-! ### Conversions -/

/-- `len(x)`: characters of a string, items of a list, entries of a mapping. -/
def len : Function := ofOne "len" fun _ v =>
  match v with
  | .str s => .ok (.int (Int64.ofNat s.length))
  | .list items => .ok (.int (Int64.ofNat items.length))
  | .map entries => .ok (.int (Int64.ofNat entries.length))
  | v => .error (.type (.noLength v.kind))

/-- `str(x)` -/
def str : Function := fun _ args =>
  match args with
  | [] => .ok (.str "")
  | [v] => .ok (.str v.text)
  | _ => .error (.arity "str" (.between 0 1) args.length)

/-- Whether a whole float is in the range of whole numbers. -/
def isWord (x : Float) : Bool :=
  x.isFinite && -9223372036854775808.0 ≤ x && x < 9223372036854775808.0

/-- `int(x)`: a float is cut off, a string read. -/
def int : Function := ofOne "int" fun _ v =>
  match v with
  | .int n => .ok (.int n)
  | .bool b => .ok (.int (Value.boolInt b))
  | .float x =>
    let t := Number.truncate x
    if isWord t then .ok (.int t.toInt64) else .error (.overflow (.conversion x))
  | .str s =>
    match (Number.readInt? ((Text.trim s.toList).filter (· != '_'))).bind Number.word? with
    | some n => .ok (.int n)
    | none => .error (.value (.intText s))
  | v => .error (.type (.notNumeric "int" v.kind))

/-- `float(x)` -/
def float : Function := ofOne "float" fun _ v =>
  match v with
  | .str s =>
    match Number.readFloat? (Text.trim s.toList) with
    | some x => .ok (.float x)
    | none => .error (.value (.floatText s))
  | v =>
    match v.toFloat? with
    | some x => .ok (.float x)
    | none => .error (.type (.notNumeric "float" v.kind))

/-- `bool(x)` -/
def bool : Function := fun _ args =>
  match args with
  | [] => .ok (.bool false)
  | [v] => .ok (.bool v.isTruthy)
  | _ => .error (.arity "bool" (.between 0 1) args.length)

/-! ### Numbers -/

/-- `abs(x)` -/
def abs : Function := ofOne "abs" fun _ v =>
  match v with
  | .int n =>
    match Number.word? n.toInt.natAbs with
    | some n => .ok (.int n)
    | none => .error (.overflow (.operation "abs()"))
  | .bool b => .ok (.int (Value.boolInt b))
  | .float x => .ok (.float x.abs)
  | v => .error (.type (.noMagnitude v.kind))

/-- The first of the values that the others do not beat; one value beats another if it orders
as `wanted` to it. -/
def best (wanted : Ordering) (v : Value) : List Value → Evaluated Value
  | [] => .ok v
  | w :: rest => do
    if (← w.order? v) == some wanted then best wanted w rest else best wanted v rest

/-- The first extreme item of a list, or of the arguments if there are several. -/
def extreme (name : String) (wanted : Ordering) : Function := fun _ args => do
  let candidates ← match args with
    | [] => throw (.arity name (.atLeast 1) 0)
    | [.list items] => pure items
    | [v] => throw (.type (.notIterable v.kind))
    | _ => pure args
  match candidates with
  | [] => throw (.value (.noItems name))
  | v :: rest => best wanted v rest

/-- The places to round to; nothing stands for a whole number. -/
def places (v : Option Value) : Evaluated (Option Int) :=
  match v with
  | none => .ok none
  | some .null => .ok none
  | some (.int n) => .ok (some n.toInt)
  | some v => .error (.type (.places v.kind))

/-- A float rounded to a whole number, a half to the even one. -/
def roundWhole (x : Float) : Evaluated Value :=
  let r := Number.roundEven x
  if isWord r then .ok (.int r.toInt64) else .error (.overflow (.rounding x))

/-- A float rounded to places after the point, or before it if there are less than none. -/
def roundPlaces (x : Float) (n : Int) : Value :=
  let scale := Number.power 10.0 (max (-308) (min n 308))
  .float (Number.roundEven (x * scale) / scale)

/-- `round(x)` and `round(x, places)` -/
def round : Function := fun _ args => do
  checkArity "round" (.between 1 2) args
  let n ← places args[1]?
  match args.headD Value.null, n with
  | .int n, _ => return .int n
  | .bool b, _ => return .int (Value.boolInt b)
  | .float x, none => roundWhole x
  | .float x, some n => return roundPlaces x n
  | v, _ => throw (.type (.notRoundable v.kind))

/-! ### Strings -/

/-- `F.join(items)` and `F.join(items, separator)` -/
def join : Function := fun _ args => do
  checkArity "F.join" (.between 1 2) args
  let separator ← match args[1]? with
    | some v => string "F.join" v
    | none => pure ""
  match args.headD Value.null with
  | .list items =>
    let joined := String.intercalate separator (items.map Value.text)
    if maxLength < joined.utf8ByteSize then throw (.limit .joined) else return .str joined
  | v => throw (.type (.notList "F.join" v.kind))

/-- `F.upper(s)` -/
def upper : Function :=
  ofString "F.upper" fun _ s => .ok (.str (String.ofList (Text.upper s.toList)))

/-- `F.lower(s)` -/
def lower : Function :=
  ofString "F.lower" fun _ s => .ok (.str (String.ofList (Text.lower s.toList)))

/-- `F.replace(s, old, new)` -/
def replace : Function := fun _ args => do
  match args with
  | [s, old, new] =>
    let s ← string "F.replace" s
    let old ← string "F.replace" old
    let new ← string "F.replace" new
    if old.isEmpty then throw (.value .emptyPattern)
    else
      let replaced := String.ofList (Text.replace old.toList new.toList s.toList)
      if maxLength < replaced.utf8ByteSize then throw (.limit .replaced) else return .str replaced
  | _ => throw (.arity "F.replace" (.exactly 3) args.length)

/-- A list of texts as a value. -/
def texts (parts : List (List Char)) : Value := .list (parts.map fun p => .str (String.ofList p))

/-- `F.split(s)` cuts at blanks, `F.split(s, separator)` at the separator. -/
def split : Function := fun _ args => do
  checkArity "F.split" (.between 1 2) args
  let s ← string "F.split" (args.headD Value.null)
  match (args[1]?).getD Value.null with
  | .null => return texts (Text.words s.toList)
  | v =>
    let separator ← string "F.split" v
    if separator.isEmpty then throw (.value .emptySeparator)
    else return texts (Text.splitOn separator.toList s.toList)

/-- `F.path_join(a, b, …)`: each part is taken relative to those before it. -/
def pathJoin : Function := fun _ args => do
  checkArity "F.path_join" (.atLeast 1) args
  let parts ← args.mapM (string "F.path_join")
  return .str (parts.foldl FileName.join "")

/-- `F.format(template, args…)` -/
def format : Function := fun _ args =>
  match args with
  | [] => .error (.arity "F.format" (.atLeast 1) 0)
  | template :: rest => do return .str (← Template.fill (← string "F.format" template) rest)

/-! ### Sealed texts and ranges -/

/-- `F.encrypt(text)` -/
def encrypt : Function :=
  ofString "F.encrypt" fun caller s => do return .str (← caller.keys.encrypt s)

/-- `F.decrypt(token)` -/
def decrypt : Function :=
  ofString "F.decrypt" fun caller s => do return .str (← caller.keys.decrypt s)

/-- `F.linspace(start, stop, count)` -/
def linspace : Function := fun _ args =>
  match args with
  | [start, stop, n] => (Range.linspace start stop n).map Value.list
  | _ => .error (.arity "F.linspace" (.exactly 3) args.length)

/-- `F.arange(stop)`, `F.arange(start, stop)` and `F.arange(start, stop, step)` -/
def arange (M : Number.Machine Evaluated) : Function := fun _ args =>
  match args with
  | [stop] => (Range.arange M (.int 0) stop (.int 1)).map Value.list
  | [start, stop] => (Range.arange M start stop (.int 1)).map Value.list
  | [start, stop, step] => (Range.arange M start stop step).map Value.list
  | _ => .error (.arity "F.arange" (.between 1 3) args.length)

end Function

namespace FunctionTable

/-- No functions. -/
def empty : FunctionTable := []

/-- All functions; the machine is the one that ranges are computed on. -/
def standard (M : Number.Machine Evaluated) : FunctionTable :=
  [("len", Function.len), ("str", Function.str), ("int", Function.int),
   ("float", Function.float), ("bool", Function.bool), ("abs", Function.abs),
   ("min", Function.extreme "min" .lt), ("max", Function.extreme "max" .gt),
   ("round", Function.round), ("F.join", Function.join), ("F.upper", Function.upper),
   ("F.lower", Function.lower), ("F.replace", Function.replace), ("F.split", Function.split),
   ("F.path_join", Function.pathJoin), ("F.format", Function.format),
   ("F.encrypt", Function.encrypt), ("F.decrypt", Function.decrypt),
   ("F.linspace", Function.linspace), ("F.arange", Function.arange M)]

/-- The names of the functions, sorted. -/
def names (t : FunctionTable) : List String := (Entries.keys t).mergeSort fun a b => decide (a ≤ b)

end FunctionTable

end ConfigTree
