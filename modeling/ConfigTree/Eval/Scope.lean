import ConfigTree.Eval.Error
import ConfigTree.TreePath
import ConfigTree.Number.Word

/-!
# Scopes

The names that an expression sees.  Bindings come in frames, each of one layer,
and an inner frame hides the names of an outer one.  The names `R` and `S` stand
for the tree resolved so far and its nearest mapping; only loop variables can hide
them, while they hide parameters and the names supplied by the caller.

## Main definitions

* `Frame`, `Scope` — bindings; `Scope.lookup?`, `Scope.lookupIn?`.
* `Sight` — a scope with `R` and `S`; `Sight.lookup`, `Sight.resolve`.
* `Value.member` — the attribute of a value.
-/

namespace ConfigTree

/-- Where a binding comes from. -/
inductive Layer
  /-- The names supplied by the caller. -/
  | globals
  /-- The parameters. -/
  | params
  /-- The variables of a loop. -/
  | loop
  deriving DecidableEq

/-- Bindings of one layer. -/
structure Frame where
  /-- The layer. -/
  layer : Layer
  /-- The bindings. -/
  bindings : Mapping

/-- Frames, the innermost first. -/
abbrev Scope := List Frame

namespace Scope

/-- The scope with a new innermost frame. -/
def enter (s : Scope) (layer : Layer) (bindings : Mapping) : Scope := ⟨layer, bindings⟩ :: s

/-- The innermost frame with one more binding. -/
def bind : Scope → String → Value → Scope
  | [], _, _ => []
  | f :: rest, name, v => { f with bindings := f.bindings.insert name v } :: rest

/-- The innermost binding of a name. -/
def lookup? : Scope → String → Option Value
  | [], _ => none
  | f :: rest, name =>
    match f.bindings.get? name with
    | some v => some v
    | none => lookup? rest name

/-- The innermost binding of a name in the frames of one layer. -/
def lookupIn? (layer : Layer) (s : Scope) (name : String) : Option Value :=
  lookup? (s.filter fun f => f.layer == layer) name

@[simp] theorem lookup?_nil (name : String) : lookup? [] name = none := rfl

@[simp] theorem lookup?_enter (s : Scope) (layer : Layer) (bindings : Mapping) (name : String) :
    (s.enter layer bindings).lookup? name = (bindings.get? name).or (s.lookup? name) := by
  simp only [enter, lookup?]
  cases Entries.get? bindings name <;> rfl

end Scope

/-- What names stand for in an expression. -/
structure Sight where
  /-- The bindings. -/
  scope : Scope
  /-- The tree resolved so far, `R`. -/
  root : Value
  /-- The nearest mapping of that tree, `S`. -/
  current : Value

/-- The attribute of a value: the entry of a mapping, or the item of a list at a position. -/
def Value.member (v : Value) (attr : String) : Evaluated Value :=
  match v with
  | .map entries =>
    match Entries.get? entries attr with
    | some v => .ok v
    | none => .error (.name (.noEntry attr))
  | .list items =>
    match (Number.readNat? attr.toList).bind (items[·]?) with
    | some v => .ok v
    | none => .error (.name (.noAttribute .list attr))
  | v => .error (.name (.noAttribute v.kind attr))

/-- The attribute of the attribute and so on, from left to right. -/
def Value.members (v : Value) : List String → Evaluated Value
  | [] => .ok v
  | attr :: rest => do
    let v ← v.member attr
    v.members rest

namespace Sight

/-- What a name stands for: a loop variable, `R` or `S`, or any other binding. -/
def lookup (e : Sight) (name : String) : Evaluated Value :=
  match e.scope.lookupIn? .loop name with
  | some v => .ok v
  | none =>
    if name = "R" then .ok e.root
    else if name = "S" then .ok e.current
    else
      match e.scope.lookup? name with
      | some v => .ok v
      | none => .error (.name (.unbound name))

/-- What a dotted name stands for: its first part is looked up, the others are attributes. -/
def resolve (e : Sight) (dotted : String) : Evaluated Value :=
  match TreePath.parts dotted with
  | [] => e.lookup ""
  | first :: rest => do
    let v ← e.lookup first
    v.members rest

end Sight

end ConfigTree
