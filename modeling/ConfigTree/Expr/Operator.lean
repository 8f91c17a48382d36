/-!
# Operators

The operators of expressions.  Each has a name by which a refusal quotes it.

## Main definitions

* `BinaryOp`, `UnaryOp`, `Comparison` — the operators that a table can give a meaning.
* `Connective` — `and` and `or`, whose meaning is fixed.
* `Operator`, `Operator.name` — any operator of a table, and its name.
-/

namespace ConfigTree

/-- An operator between two operands. -/
inductive BinaryOp
  /-- Sum, and joining of strings and lists. -/
  | add
  /-- Difference. -/
  | sub
  /-- Product, and repetition of strings and lists. -/
  | mul
  /-- Quotient as a float. -/
  | div
  /-- Quotient rounded down. -/
  | floorDiv
  /-- Remainder with the sign of the divisor. -/
  | mod
  /-- Power. -/
  | pow
  /-- Bits in both operands. -/
  | bitAnd
  /-- Bits in either operand. -/
  | bitOr
  /-- Bits in one operand only. -/
  | bitXor
  /-- Product with a power of two. -/
  | shiftLeft
  /-- Quotient by a power of two, rounded down. -/
  | shiftRight
  deriving DecidableEq

/-- An operator before one operand. -/
inductive UnaryOp
  /-- The sign changed. -/
  | minus
  /-- The sign kept. -/
  | plus
  /-- The opposite truth. -/
  | not
  /-- Every bit changed. -/
  | invert
  deriving DecidableEq

/-- An operator that compares two operands. -/
inductive Comparison
  /-- Equal. -/
  | eq
  /-- Not equal. -/
  | ne
  /-- Less. -/
  | lt
  /-- Less or equal. -/
  | le
  /-- Greater. -/
  | gt
  /-- Greater or equal. -/
  | ge
  /-- Contained. -/
  | isIn
  /-- Not contained. -/
  | notIn
  /-- The same value of the same kind. -/
  | same
  /-- Not the same value of the same kind. -/
  | notSame
  deriving DecidableEq

/-- An operator that leaves the right operands alone once the outcome is known. -/
inductive Connective
  /-- The first operand that counts as false, else the last. -/
  | and
  /-- The first operand that counts as true, else the last. -/
  | or
  deriving DecidableEq

/-- An operator that has its meaning from a table. -/
inductive Operator
  /-- Between two operands. -/
  | binary (op : BinaryOp)
  /-- Before one operand. -/
  | unary (op : UnaryOp)
  /-- In a comparison. -/
  | compare (op : Comparison)
  deriving DecidableEq

/-- The name of a binary operator. -/
def BinaryOp.name : BinaryOp → String
  | .add => "Add"
  | .sub => "Sub"
  | .mul => "Mult"
  | .div => "Div"
  | .floorDiv => "FloorDiv"
  | .mod => "Mod"
  | .pow => "Pow"
  | .bitAnd => "BitAnd"
  | .bitOr => "BitOr"
  | .bitXor => "BitXor"
  | .shiftLeft => "LShift"
  | .shiftRight => "RShift"

/-- The name of a unary operator. -/
def UnaryOp.name : UnaryOp → String
  | .minus => "USub"
  | .plus => "UAdd"
  | .not => "Not"
  | .invert => "Invert"

/-- The name of a comparison. -/
def Comparison.name : Comparison → String
  | .eq => "Eq"
  | .ne => "NotEq"
  | .lt => "Lt"
  | .le => "LtE"
  | .gt => "Gt"
  | .ge => "GtE"
  | .isIn => "In"
  | .notIn => "NotIn"
  | .same => "Is"
  | .notSame => "IsNot"

/-- The name of an operator, by which a refusal quotes it. -/
def Operator.name : Operator → String
  | .binary op => op.name
  | .unary op => op.name
  | .compare op => op.name

end ConfigTree
