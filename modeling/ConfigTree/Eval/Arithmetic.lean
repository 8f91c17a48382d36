import ConfigTree.Value.Order
import ConfigTree.Number.Machine
import ConfigTree.Number.Binary
import ConfigTree.Text.Search

/-!
# What operators do

The meaning of each operator on values.  Whole numbers are computed exactly and
refused if the result does not fit; a float on either side makes the operation one
on floats.  Quotients, remainders and shifts are those of a machine, which tells
where it overflows.  Strings and lists can be joined and repeated up to a greatest
length.

## Main definitions

* `Operation` — addition to power, the bit operations, and the signs.
* `Value.contains` — membership.
-/

namespace ConfigTree

namespace Operation

/-- A word, or an overflow of the operation that has none. -/
def orOverflow (symbol : String) : Option Int64 → Evaluated Value
  | some w => .ok (.int w)
  | none => .error (.overflow (.operation symbol))

/-- The word of a result, or an overflow of the operation. -/
def fit (symbol : String) (n : Int) : Evaluated Value := orOverflow symbol (Number.word? n)

/-- A length within the limit. -/
def checkLength (n : Nat) : Evaluated Unit :=
  if maxLength < n then .error (.limit (.length n)) else .ok ()

/-- An operation on numbers: exact on whole numbers, else on floats. -/
def numeric (symbol : String) (whole : Int → Int → Int) (real : Float → Float → Float)
    (l r : Value) : Evaluated Value :=
  match l.numeric?, r.numeric? with
  | some (.int a), some (.int b) => fit symbol (whole a.toInt b.toInt)
  | some x, some y => .ok (.float (real x.toFloat y.toFloat))
  | _, _ => .error (.type (.operands symbol l.kind r.kind))

/-- `l + r`: a sum, or two strings or lists joined. -/
def add (l r : Value) : Evaluated Value :=
  match l, r with
  | .str s, .str t => do
    checkLength (s.utf8ByteSize + t.utf8ByteSize)
    return .str (s ++ t)
  | .list xs, .list ys => do
    checkLength (xs.length + ys.length)
    return .list (xs ++ ys)
  | _, _ => numeric "+" (· + ·) (· + ·) l r

/-- `l - r` -/
def sub (l r : Value) : Evaluated Value := numeric "-" (· - ·) (· - ·) l r

/-- How often something of length `unit` is repeated: never if it is empty or the count is
negative.  A length beyond 64 bits is reported as the greatest of 64 bits. -/
def repetitions (count : Int64) (unit : Nat) : Evaluated Nat :=
  if unit = 0 then .ok 0
  else do
    let n := count.toInt.toNat
    checkLength (min (n * unit) 18446744073709551615)
    return n

/-- A string repeated. -/
def repeatString (s : String) (count : Int64) : Evaluated Value := do
  let n ← repetitions count s.utf8ByteSize
  return .str (String.ofList (List.replicate n s.toList).flatten)

/-- A list repeated. -/
def repeatList (xs : List Value) (count : Int64) : Evaluated Value := do
  let n ← repetitions count xs.length
  return .list (List.replicate n xs).flatten

/-- `l * r`: a product, or a string or list repeated. -/
def mul (l r : Value) : Evaluated Value :=
  match l, r with
  | .str s, .int n => repeatString s n
  | .int n, .str s => repeatString s n
  | .list xs, .int n => repeatList xs n
  | .int n, .list xs => repeatList xs n
  | _, _ => numeric "*" (· * ·) (· * ·) l r

/-- `l / r`, always a float. -/
def div (l r : Value) : Evaluated Value :=
  match l.numeric?, r.numeric? with
  | some x, some y =>
    if y.toFloat == 0.0 then .error (.zeroDivision .quotient)
    else .ok (.float (x.toFloat / y.toFloat))
  | _, _ => .error (.type (.operands "/" l.kind r.kind))

/-- `l // r`, the quotient rounded down. -/
def floorDiv (l r : Value) : Evaluated Value :=
  match l.numeric?, r.numeric? with
  | some (.int a), some (.int b) =>
    if b = 0 then .error (.zeroDivision .whole)
    else orOverflow "//" ((Number.Machine.wrapping Id).floorDiv? a b).run
  | some x, some y =>
    if y.toFloat == 0.0 then .error (.zeroDivision .floor)
    else .ok (.float (x.toFloat / y.toFloat).floor)
  | _, _ => .error (.type (.operands "//" l.kind r.kind))

/-- The remainder of floats with the sign of the divisor. -/
def floatMod (x y : Float) : Float :=
  let r := Number.remainder x y
  if r != 0.0 && (r < 0.0) != (y < 0.0) then r + y else r

/-- `l % r`, the remainder with the sign of the divisor.  It is refused where the machine has no
quotient. -/
def mod (l r : Value) : Evaluated Value :=
  match l.numeric?, r.numeric? with
  | some (.int a), some (.int b) =>
    if b = 0 then .error (.zeroDivision .whole)
    else orOverflow "%" ((Number.Machine.wrapping Id).floorMod? a b).run
  | some x, some y =>
    if y.toFloat == 0.0 then .error (.zeroDivision .remainder)
    else .ok (.float (floatMod x.toFloat y.toFloat))
  | _, _ => .error (.type (.operands "%" l.kind r.kind))

/-- `a ^ n` if it can be a word: unless the base is -1, 0 or 1, no power above the
sixty-third is. -/
def wholePower? (a : Int) (n : Nat) : Option Int :=
  if a.natAbs ≤ 1 then
    some (if n = 0 then 1 else if a = -1 ∧ n % 2 = 0 then 1 else a)
  else if n ≤ 63 then some (Int.pow a n)
  else none

/-- A power of floats. -/
def floatPower (x y : Float) : Evaluated Value :=
  if x == 0.0 && y < 0.0 then .error (.zeroDivision .power)
  else
    let z := x.pow y
    if z.isNaN then .error (.value .domain) else .ok (.float z)

/-- `l ** r`, a whole number if both operands are and the exponent is not negative. -/
def pow (l r : Value) : Evaluated Value :=
  match l.numeric?, r.numeric? with
  | some x, some (.int n) =>
    if maxPower < n.toInt.natAbs then .error (.limit .exponent)
    else
      match x with
      | .int a =>
        if 0 ≤ n.toInt then
          match wholePower? a.toInt n.toInt.toNat with
          | some p => fit "**" p
          | none => .error (.overflow (.operation "**"))
        else floatPower a.toFloat n.toFloat
      | .float x => floatPower x n.toFloat
  | some x, some (.float y) =>
    if 4000000.0 < y.abs then .error (.limit .exponent) else floatPower x.toFloat y
  | _, _ => .error (.type (.operands "** or pow()" l.kind r.kind))

/-- An operation on whole numbers, truth values among them. -/
def whole (symbol : String) (f : Int64 → Int64 → Evaluated Value) (l r : Value) :
    Evaluated Value :=
  match l.toInt64?, r.toInt64? with
  | some a, some b => f a b
  | _, _ => .error (.type (.operands symbol l.kind r.kind))

/-- `l & r` -/
def bitAnd : Value → Value → Evaluated Value := whole "&" fun a b => .ok (.int (a &&& b))

/-- `l | r` -/
def bitOr : Value → Value → Evaluated Value := whole "|" fun a b => .ok (.int (a ||| b))

/-- `l ^ r` -/
def bitXor : Value → Value → Evaluated Value := whole "^" fun a b => .ok (.int (a ^^^ b))

/-- How far to shift: not to the other side, and less than `2 ^ 32`. -/
def shiftCount (n : Int64) : Evaluated Nat :=
  if n.toInt < 0 then .error (.value .negativeShift)
  else if 4294967296 ≤ n.toInt then .error (.overflow (.operation "shift"))
  else .ok n.toInt.toNat

/-- `l << r`, refused if a bit would be lost or the count is not below 64. -/
def shiftLeft : Value → Value → Evaluated Value :=
  whole "<<" fun a b => do
    let n ← shiftCount b
    orOverflow "<<" (Number.shiftLeft? a n)

/-- `l >> r`, rounded down. -/
def shiftRight : Value → Value → Evaluated Value :=
  whole ">>" fun a b => do
    let n ← shiftCount b
    return .int (Number.shiftRight a n)

/-- `-v` -/
def minus (v : Value) : Evaluated Value :=
  match v.numeric? with
  | some (.int n) => fit "-" (-n.toInt)
  | some (.float x) => .ok (.float (-x))
  | none => .error (.type (.operand "-" v.kind))

/-- `+v`, which makes a truth value a number. -/
def plus (v : Value) : Evaluated Value :=
  match v.numeric? with
  | some (.int n) => .ok (.int n)
  | some (.float x) => .ok (.float x)
  | none => .error (.type (.operand "+" v.kind))

/-- `not v` -/
def not (v : Value) : Evaluated Value := .ok (.bool !v.isTruthy)

/-- `~v` -/
def invert (v : Value) : Evaluated Value :=
  match v.toInt64? with
  | some n => .ok (.int (~~~n))
  | none => .error (.type (.operand "~" v.kind))

end Operation

/-- Whether `v` is in a container: a part of a string, an item of a list, a key of a mapping. -/
def Value.contains (container v : Value) : Evaluated Bool :=
  match container, v with
  | .str s, .str part => .ok (Text.contains part.toList s.toList)
  | .str _, v => .error (.type (.partOfString v.kind))
  | .list items, v => .ok (items.any fun item => item.equal v)
  | .map entries, .str key => .ok (Entries.has entries key)
  | .map _, _ => .ok false
  | container, _ => .error (.type (.container container.kind))

namespace Operation

/-- A comparison by the order of the values. -/
def ordered (holds : Ordering → Bool) (l r : Value) : Evaluated Value := do
  match ← l.order? r with
  | some o => return .bool (holds o)
  | none => return .bool false

/-- `l == r` -/
def eq (l r : Value) : Evaluated Value := .ok (.bool (l.equal r))

/-- `l != r` -/
def ne (l r : Value) : Evaluated Value := .ok (.bool !(l.equal r))

/-- `l < r` -/
def lt : Value → Value → Evaluated Value := ordered (· == .lt)

/-- `l <= r` -/
def le : Value → Value → Evaluated Value := ordered (· != .gt)

/-- `l > r` -/
def gt : Value → Value → Evaluated Value := ordered (· == .gt)

/-- `l >= r` -/
def ge : Value → Value → Evaluated Value := ordered (· != .lt)

/-- `l in r` -/
def isIn (l r : Value) : Evaluated Value := do return .bool (← r.contains l)

/-- `l not in r` -/
def notIn (l r : Value) : Evaluated Value := do return .bool !(← r.contains l)

/-- `l is r` -/
def same (l r : Value) : Evaluated Value := .ok (.bool (l.identical r))

/-- `l is not r` -/
def notSame (l r : Value) : Evaluated Value := .ok (.bool !(l.identical r))

end Operation

end ConfigTree
