import ConfigTree.Eval.Function
import ConfigTree.Eval.OperatorTable
import ConfigTree.Eval.Scope
import ConfigTree.Expr.Parser
import ConfigTree.Text.Blank

/-!
# Evaluating expressions

The value of an expression where names, operators and functions are known.  The
nesting is limited once more, though the reader limits it already: a tuple or a
long run of operators nests less than it seems, so that the two limits do not
coincide.

A run of attributes and indices counts as one level.  They are collected from the
outside in, and then applied from the inside out, one after the other.  The innermost
operand, if it is a name, is joined with the attributes that follow it directly to a
dotted name, and that is looked up as a whole.

## Main definitions

* `Environment` — what an expression can use.
* `Trailer` — an attribute or index that has been collected.
* `Expr.eval` — the value of an expression.
* `Environment.evaluate` — the value of a text; one that is no expression is its own.
* `Environment.settle` — the same for a text in a document, which always has a value.
-/

namespace ConfigTree

/-- Everything an expression can use. -/
structure Environment extends Caller where
  /-- The functions. -/
  functions : FunctionTable
  /-- The operators. -/
  operators : OperatorTable

/-- The position that an index means in something of a length; negative ones count from the
end. -/
def Value.position (index : Value) (length : Nat) (container : String) : Evaluated Nat :=
  match index.toInt64? with
  | none => .error (.type (.index container index.kind))
  | some i =>
    let n := ((Number.Machine.wrapping Id).fromEnd i length).run
    if n < 0 ∨ Int64.ofNat length ≤ n then .error (.index (.position container i.toInt))
    else .ok n.toInt.toNat

/-- The item, character or entry at an index. -/
def Value.item (v index : Value) : Evaluated Value :=
  match v with
  | .list items => do
    let i ← index.position items.length "list"
    return items.getD i .null
  | .str s => do
    let cs := s.toList
    let i ← index.position cs.length "string"
    return .str (String.singleton (cs.getD i ' '))
  | .map entries =>
    match Entries.get? entries index.keyText with
    | some v => .ok v
    | none => .error (.index (.key index.literal))
  | v => .error (.type (.subscript v.kind))

/-- The key of an entry, which is no list or mapping. -/
def Value.entryKey (v : Value) : Evaluated String :=
  match v with
  | .list _ => .error (.type (.key v.kind))
  | .map _ => .error (.type (.key v.kind))
  | v => .ok v.keyText

/-- Where an expression stands in the whole one: how deep, and as which part of which part. -/
structure Spot where
  /-- How deep. -/
  depth : Nat
  /-- The numbers of the parts, the innermost first. -/
  label : List Nat

/-- The spot of a part that counts as no deeper. -/
def Spot.part (s : Spot) (i : Nat) : Spot := { s with label := i :: s.label }

/-- A part one level deeper, unless that is too deep. -/
def Spot.nested (s : Spot) (i : Nat) (f : Spot → Evaluated Value) : Evaluated Value :=
  if maxDepth < s.depth then .error (.limit .nesting) else f ⟨s.depth + 1, i :: s.label⟩

/-! ### Attributes and indices -/

/-- An attribute or index behind an operand. -/
inductive Trailer
  /-- An attribute. -/
  | attribute (attr : String)
  /-- An index, which is not evaluated before its turn comes. -/
  | index (value : Unit → Evaluated Value)

namespace Trailer

/-- The attributes that a list begins with. -/
def leading : List Trailer → List String
  | .attribute attr :: rest => attr :: leading rest
  | _ => []

/-- What comes after the attributes that a list begins with. -/
def others : List Trailer → List Trailer
  | .attribute _ :: rest => others rest
  | trailers => trailers

/-- What is made of a value. -/
def apply (v : Value) : Trailer → Evaluated Value
  | .attribute attr => v.member attr
  | .index value => do v.item (← value ())

/-- What is made of a value by one after the other. -/
def applyAll (v : Value) : List Trailer → Evaluated Value
  | [] => .ok v
  | trailer :: rest => do
    let v ← trailer.apply v
    applyAll v rest

end Trailer

/-- A name with attributes, as one dotted name. -/
def Sight.dotted (name : String) (attrs : List String) : String :=
  attrs.foldl (fun dotted attr => dotted ++ "." ++ attr) name

/-! ### Expressions -/

namespace Expr

variable (env : Environment)

mutual

/-- The value of an expression with its parts at a spot. -/
def evalAt : Expr → Spot → Evaluated Value
  | .null, _ => .ok .null
  | .bool b, _ => .ok (.bool b)
  | .int n, _ => .ok (.int n)
  | .float x, _ => .ok (.float x)
  | .str s, _ => .ok (.str s)
  | .name n, _ => env.lookup n
  | .attribute value attr, s => evalTrailed value (evalAt value) s [.attribute attr]
  | .subscript value index, s =>
    evalTrailed value (evalAt value) s [.index fun _ => s.nested 1 (evalAt index)]
  | .call func args, s =>
    match dottedName? func with
    | none => .error .notCallable
    | some dotted =>
      match env.functions.get? dotted with
      | none => .error (.name (.unbound dotted))
      | some f => do f (env.toCaller.labelled s.label) (← evalAll args s 0 [])
  | .list items, s => do return .list (← evalAll items s 0 [])
  | .tuple items, s => do return .list (← evalAll items s 0 [])
  | .dict entries, s => evalEntries entries s 0 []
  | .unary op operand, s => do env.operators.unary op (← s.nested 0 (evalAt operand))
  | .power base exponent, s => do
    let l ← s.nested 0 (evalAt base)
    let r ← s.nested 1 (evalAt exponent)
    env.operators.binary .pow l r
  | .chain first rest, s => do evalChain rest s 1 (← s.nested 0 (evalAt first))
  | .logical op operands, s => evalLogical op operands s 0 .null
  | .compare first rest, s => do evalCompare rest s 1 (← s.nested 0 (evalAt first))
termination_by structural e => e

/-- The value of an operand with the trailers that have been collected behind it, the innermost
first; `s` is the spot of the innermost one.  An operand that has no trailers itself and is no name
is evaluated by `base`. -/
def evalTrailed : Expr → (Spot → Evaluated Value) → Spot → List Trailer → Evaluated Value
  | .attribute value attr, _, s, trailers =>
    evalTrailed value (evalAt value) (s.part 0) (.attribute attr :: trailers)
  | .subscript value index, _, s, trailers =>
    evalTrailed value (evalAt value) (s.part 0)
      (.index (fun _ => (s.part 0).nested 1 (evalAt index)) :: trailers)
  | .name n, _, _, trailers => do
    let v ← env.resolve (Sight.dotted n (Trailer.leading trailers))
    Trailer.applyAll v (Trailer.others trailers)
  | _, base, s, trailers => do
    let v ← s.nested 0 base
    Trailer.applyAll v trailers
termination_by structural e => e

/-- The values of the expressions, parts from number `i` on, after those `done` held back to
front. -/
def evalAll : List Expr → Spot → Nat → List Value → Evaluated (List Value)
  | [], _, _, done => .ok done.reverse
  | e :: rest, s, i, done => do
    let v ← s.nested i (evalAt e)
    evalAll rest s (i + 1) (v :: done)
termination_by structural es => es

/-- The mapping of the entries and those `done`; of two entries with one key the later value
stands in the earlier place. -/
def evalEntries : List (Expr × Expr) → Spot → Nat → Mapping → Evaluated Value
  | [], _, _, done => .ok (.map done)
  | (key, value) :: rest, s, i, done => do
    let key ← (← s.nested i (evalAt key)).entryKey
    let v ← s.nested (i + 1) (evalAt value)
    evalEntries rest s (i + 2) (done.insert key v)
termination_by structural es => es

/-- The operators applied one after the other, the first of them to `l`. -/
def evalChain : List (BinaryOp × Expr) → Spot → Nat → Value → Evaluated Value
  | [], _, _, l => .ok l
  | (op, e) :: rest, s, i, l => do
    let r ← s.nested i (evalAt e)
    let v ← env.operators.binary op l r
    evalChain rest s (i + 1) v
termination_by structural es => es

/-- The first operand that decides, else the last; `v` if there is none. -/
def evalLogical (op : Connective) : List Expr → Spot → Nat → Value → Evaluated Value
  | [], _, _, v => .ok v
  | e :: rest, s, i, _ => do
    let v ← s.nested i (evalAt e)
    if v.isTruthy == (op == .or) then return v else evalLogical op rest s (i + 1) v
termination_by structural es => es

/-- Whether all comparisons hold, each of the operand before and the operand after it. -/
def evalCompare : List (Comparison × Expr) → Spot → Nat → Value → Evaluated Value
  | [], _, _, _ => .ok (.bool true)
  | (op, e) :: rest, s, i, l => do
    let r ← s.nested i (evalAt e)
    if ← env.operators.compare op l r then evalCompare rest s (i + 1) r else return .bool false
termination_by structural es => es

end

/-- The value of an expression. -/
def eval (e : Expr) : Evaluated Value := evalAt env e ⟨1, []⟩

end Expr

namespace Environment

/-- The value of a text.  Blank text, and text that is no expression, is its own value. -/
def evaluate (env : Environment) (source : String) : Evaluated Value :=
  if Text.isAllBlank source.toList then .ok (.str source)
  else
    match parseExpression source with
    | .ok e => e.eval env
    | .error _ => .ok (.str source)

theorem evaluate_of_parse {source : String} {e : Expr} (hparse : parseExpression source = .ok e)
    (hblank : Text.isAllBlank source.toList = false) (env : Environment) :
    env.evaluate source = e.eval env := by
  rw [evaluate, hblank, hparse]
  rfl

/-- The value of a text in a document.  One that has none is kept as it is, and the cause
comes with it. -/
def settle (env : Environment) (source : String) : Value × Option EvalError :=
  match env.evaluate source with
  | .ok v => (v, none)
  | .error e => (.str source, some e)

variable {env : Environment} {source : String}

theorem settle_of_ok {v : Value} (h : env.evaluate source = .ok v) :
    env.settle source = (v, none) := by
  rw [settle, h]

theorem settle_of_error {e : EvalError} (h : env.evaluate source = .error e) :
    env.settle source = (.str source, some e) := by
  rw [settle, h]

end Environment

end ConfigTree
