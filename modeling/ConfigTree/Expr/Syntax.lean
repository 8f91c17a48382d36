import ConfigTree.Expr.Operator

/-!
# Expressions

What a source says once its words have been put together.  Operators of one
precedence that stand side by side form one flat node, and so do the operands of
a run of `and` or `or` and of a run of comparisons.

## Main definitions

* `Expr` — the expressions; `Expr.dottedName?` — the name that one spells.
-/

namespace ConfigTree

/-- An expression. -/
inductive Expr
  /-- The absent value. -/
  | null
  /-- A truth value. -/
  | bool (b : Bool)
  /-- A whole number. -/
  | int (n : Int64)
  /-- A floating-point number. -/
  | float (x : Float)
  /-- A text. -/
  | str (s : String)
  /-- A name. -/
  | name (n : String)
  /-- `value.attr` -/
  | attribute (value : Expr) (attr : String)
  /-- `value[index]` -/
  | subscript (value : Expr) (index : Expr)
  /-- `func(args)` -/
  | call (func : Expr) (args : List Expr)
  /-- `[a, b]` -/
  | list (items : List Expr)
  /-- `(a, b)` -/
  | tuple (items : List Expr)
  /-- Keys with their values in braces. -/
  | dict (entries : List (Expr × Expr))
  /-- An operator before its operand. -/
  | unary (op : UnaryOp) (operand : Expr)
  /-- `base ** exponent`, the one operator that groups from the right. -/
  | power (base : Expr) (exponent : Expr)
  /-- Operators of one precedence, grouping from the left: `a + b - c`. -/
  | chain (first : Expr) (rest : List (BinaryOp × Expr))
  /-- A run of `and`, or of `or`. -/
  | logical (op : Connective) (operands : List Expr)
  /-- A run of comparisons, each between two neighbours: `a < b <= c`. -/
  | compare (first : Expr) (rest : List (Comparison × Expr))

instance : Inhabited Expr := ⟨.null⟩

namespace Expr

/-- The dotted name that an expression spells, if it is a name followed by attributes only. -/
def dottedName? : Expr → Option String
  | .name n => some n
  | .attribute value attr => (dottedName? value).map fun n => n ++ "." ++ attr
  | _ => none

/-- A name, or an expression followed by an attribute or an index. -/
def isPostfix : Expr → Bool
  | .name _ => true
  | .attribute _ _ => true
  | .subscript _ _ => true
  | _ => false

end Expr

end ConfigTree
