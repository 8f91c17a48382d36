import ConfigTree.Entries

/-!
# Configuration values

A configuration is a tree of scalars, lists and mappings.  The same type holds a
document as it is read, the tree that is resolved from it and every value that an
expression has.

## Main definitions

* `Value` — the trees.
* `Kind` — what sort of value one is, and the word for it in messages.
* `Value.isTruthy`, `Value.toInt64?`, `Value.toFloat?` — how a value counts as a truth
  or a number.
-/

namespace ConfigTree

/-- A node of a configuration tree. -/
inductive Value
  /-- The absent value. -/
  | null
  /-- A truth value. -/
  | bool (b : Bool)
  /-- A whole number of 64 bits. -/
  | int (n : Int64)
  /-- A floating-point number. -/
  | float (x : Float)
  /-- A text. -/
  | str (s : String)
  /-- A list. -/
  | list (items : List Value)
  /-- A mapping, its entries in document order. -/
  | map (entries : List (String × Value))

instance : Inhabited Value := ⟨.null⟩

/-- The entries of a mapping. -/
abbrev Mapping := Entries Value

/-- The sorts of values. -/
inductive Kind
  /-- The absent value. -/
  | null
  /-- Truth values. -/
  | bool
  /-- Whole numbers. -/
  | int
  /-- Floating-point numbers. -/
  | float
  /-- Texts. -/
  | str
  /-- Lists. -/
  | list
  /-- Mappings. -/
  | map
  deriving DecidableEq

/-- The word for the sort in messages. -/
def Kind.name : Kind → String
  | .null => "None"
  | .bool => "bool"
  | .int => "int"
  | .float => "float"
  | .str => "str"
  | .list => "list"
  | .map => "dict"

namespace Value

/-- The sort of a value. -/
def kind : Value → Kind
  | .null => .null
  | .bool _ => .bool
  | .int _ => .int
  | .float _ => .float
  | .str _ => .str
  | .list _ => .list
  | .map _ => .map

/-- The word for the sort of a value. -/
def kindName (v : Value) : String := v.kind.name

/-- Whether a value counts as true: zero and whatever is empty does not. -/
def isTruthy : Value → Bool
  | .null => false
  | .bool b => b
  | .int n => n != 0
  | .float x => x != 0.0
  | .str s => !s.isEmpty
  | .list items => !items.isEmpty
  | .map entries => !entries.isEmpty

/-- The text of a string. -/
def str? : Value → Option String
  | .str s => some s
  | _ => none

/-- The items of a list. -/
def list? : Value → Option (List Value)
  | .list items => some items
  | _ => none

/-- The entries of a mapping. -/
def map? : Value → Option Mapping
  | .map entries => some entries
  | _ => none

/-- A mapping is there. -/
def isMap : Value → Bool
  | .map _ => true
  | _ => false

/-- A truth value as a number. -/
def boolInt (b : Bool) : Int64 := if b then 1 else 0

/-- The value as a whole number; truth values count as zero and one. -/
def toInt64? : Value → Option Int64
  | .int n => some n
  | .bool b => some (boolInt b)
  | _ => none

/-- The value as a float; whole numbers and truth values are converted. -/
def toFloat? : Value → Option Float
  | .int n => some n.toFloat
  | .float x => some x
  | .bool b => some (if b then 1.0 else 0.0)
  | _ => none

/-- A number proper, which a truth value is not. -/
def isNumber : Value → Bool
  | .int _ => true
  | .float _ => true
  | _ => false

@[simp] theorem kind_map (es : List (String × Value)) : kind (.map es) = .map := rfl

@[simp] theorem map?_map (es : List (String × Value)) : map? (.map es) = some es := rfl

@[simp] theorem isMap_map (es : List (String × Value)) : isMap (.map es) = true := rfl

theorem isMap_iff {v : Value} : v.isMap = true ↔ ∃ es, v = .map es := by
  cases v <;> simp [isMap]

end Value

end ConfigTree
