import ConfigTree.Eval.Arithmetic

/-!
# Operator tables

Which operators an evaluation may use, and what they do.  An operator that the
table lacks is refused by name.

## Main definitions

* `OperatorTable` — the tables; `empty`, `standard` and `withBits` are three of them.
* `OperatorTable.binary`, `unary`, `compare` — an operator applied.
-/

namespace ConfigTree

/-- What an operator does with two operands. -/
abbrev BinaryMeaning := Value → Value → Evaluated Value

/-- What an operator does with one operand. -/
abbrev UnaryMeaning := Value → Evaluated Value

/-- The operators at hand.  A comparison may give any value; its truth is taken. -/
structure OperatorTable where
  /-- The binary operators. -/
  binary? : BinaryOp → Option BinaryMeaning
  /-- The unary operators. -/
  unary? : UnaryOp → Option UnaryMeaning
  /-- The comparisons. -/
  compare? : Comparison → Option BinaryMeaning

namespace OperatorTable

/-- No operators. -/
def empty : OperatorTable := ⟨fun _ => none, fun _ => none, fun _ => none⟩

/-- Arithmetic, signs, `not` and all comparisons. -/
def standard : OperatorTable where
  binary?
    | .add => some Operation.add
    | .sub => some Operation.sub
    | .mul => some Operation.mul
    | .div => some Operation.div
    | .floorDiv => some Operation.floorDiv
    | .mod => some Operation.mod
    | .pow => some Operation.pow
    | _ => none
  unary?
    | .minus => some Operation.minus
    | .plus => some Operation.plus
    | .not => some Operation.not
    | .invert => none
  compare?
    | .eq => some Operation.eq
    | .ne => some Operation.ne
    | .lt => some Operation.lt
    | .le => some Operation.le
    | .gt => some Operation.gt
    | .ge => some Operation.ge
    | .isIn => some Operation.isIn
    | .notIn => some Operation.notIn
    | .same => some Operation.same
    | .notSame => some Operation.notSame

/-- The standard table with the operators on bits. -/
def withBits : OperatorTable where
  binary?
    | .bitAnd => some Operation.bitAnd
    | .bitOr => some Operation.bitOr
    | .bitXor => some Operation.bitXor
    | .shiftLeft => some Operation.shiftLeft
    | .shiftRight => some Operation.shiftRight
    | op => standard.binary? op
  unary?
    | .invert => some Operation.invert
    | op => standard.unary? op
  compare? := standard.compare?

/-- The table with a binary operator given a meaning or taken away. -/
def setBinary (t : OperatorTable) (op : BinaryOp) (m : Option BinaryMeaning) : OperatorTable :=
  { t with binary? := fun o => if o = op then m else t.binary? o }

/-- The table with a unary operator given a meaning or taken away. -/
def setUnary (t : OperatorTable) (op : UnaryOp) (m : Option UnaryMeaning) : OperatorTable :=
  { t with unary? := fun o => if o = op then m else t.unary? o }

/-- The table with a comparison given a meaning or taken away. -/
def setCompare (t : OperatorTable) (op : Comparison) (m : Option BinaryMeaning) : OperatorTable :=
  { t with compare? := fun o => if o = op then m else t.compare? o }

/-- The table without an operator. -/
def remove (t : OperatorTable) : Operator → OperatorTable
  | .binary op => t.setBinary op none
  | .unary op => t.setUnary op none
  | .compare op => t.setCompare op none

/-- Whether the table has an operator. -/
def supports (t : OperatorTable) : Operator → Bool
  | .binary op => (t.binary? op).isSome
  | .unary op => (t.unary? op).isSome
  | .compare op => (t.compare? op).isSome

/-- A binary operator applied. -/
def binary (t : OperatorTable) (op : BinaryOp) (l r : Value) : Evaluated Value :=
  match t.binary? op with
  | some m => m l r
  | none => .error (.unsupported (.binary op))

/-- A unary operator applied. -/
def unary (t : OperatorTable) (op : UnaryOp) (v : Value) : Evaluated Value :=
  match t.unary? op with
  | some m => m v
  | none => .error (.unsupported (.unary op))

/-- A comparison made: the truth of what the operator gives. -/
def compare (t : OperatorTable) (op : Comparison) (l r : Value) : Evaluated Bool :=
  match t.compare? op with
  | some m => (m l r).map Value.isTruthy
  | none => .error (.unsupported (.compare op))

end OperatorTable

end ConfigTree
