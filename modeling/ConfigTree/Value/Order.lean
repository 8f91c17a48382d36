import ConfigTree.Eval.Error

/-!
# Comparing values

When two values are equal, and which of two comes first.  Numbers and truth values
compare by size whatever their sort; mappings are equal whatever the order of
their entries, and have no order themselves.

## Main definitions

* `Value.equal` — equality as expressions see it.
* `Value.order?` — the order, which some pairs do not have.
-/

namespace ConfigTree

namespace Value

/-- The number that a value is or counts as. -/
inductive Numeric
  /-- A whole number. -/
  | int (n : Int64)
  /-- A float. -/
  | float (x : Float)

/-- The value as a number; truth values count as zero and one. -/
def numeric? : Value → Option Numeric
  | .int n => some (.int n)
  | .bool b => some (.int (boolInt b))
  | .float x => some (.float x)
  | _ => none

theorem eq_of_toInt64? {v : Value} {n : Int64} (h : v.toInt64? = some n) :
    v = .int n ∨ ∃ b, v = .bool b ∧ n = boolInt b := by
  cases v with
  | int m => exact Or.inl (congrArg Value.int (Option.some.inj h))
  | bool b => exact Or.inr ⟨b, rfl, (Option.some.inj h).symm⟩
  | _ => cases h

theorem numeric?_of_toInt64? {v : Value} {n : Int64} (h : v.toInt64? = some n) :
    v.numeric? = some (.int n) := by
  rcases eq_of_toInt64? h with rfl | ⟨b, rfl, rfl⟩ <;> rfl

/-- The number as a float. -/
def Numeric.toFloat : Numeric → Float
  | .int n => n.toFloat
  | .float x => x

/-- Whether two numbers are the same; a whole number meets a float as a float. -/
def Numeric.equal : Numeric → Numeric → Bool
  | .int a, .int b => a == b
  | a, b => a.toFloat == b.toFloat

/-- Which of two floats is smaller, unless one of them is no number. -/
def floatOrder? (x y : Float) : Option Ordering :=
  if x < y then some .lt else if x == y then some .eq else if y < x then some .gt else none

/-- Which of two numbers is smaller, unless one of them is no number. -/
def Numeric.order? : Numeric → Numeric → Option Ordering
  | .int a, .int b => some (compare a.toInt b.toInt)
  | a, b => floatOrder? a.toFloat b.toFloat

/-- Whether two scalars are equal. -/
def scalarEqual (a b : Value) : Bool :=
  match a, b with
  | .null, .null => true
  | .str s, .str t => s == t
  | a, b =>
    match a.numeric?, b.numeric? with
    | some x, some y => x.equal y
    | _, _ => false

mutual

/-- Equality as expressions see it. -/
def equal : Value → Value → Bool
  | .list xs, w =>
    match w with
    | .list ys => itemsEqual xs ys
    | _ => false
  | .map es, w =>
    match w with
    | .map fs => es.length == fs.length && entriesEqual es fs
    | _ => false
  | v, w => scalarEqual v w
termination_by structural v => v

/-- Whether two lists have equal items. -/
def itemsEqual : List Value → List Value → Bool
  | [], ys => ys.isEmpty
  | x :: xs, ys =>
    match ys with
    | y :: ys => equal x y && itemsEqual xs ys
    | [] => false
termination_by structural xs => xs

/-- Whether every entry has an equal one under its key. -/
def entriesEqual : List (String × Value) → List (String × Value) → Bool
  | [], _ => true
  | (k, v) :: rest, fs =>
    (match Entries.get? fs k with
      | some w => equal v w
      | none => false) && entriesEqual rest fs
termination_by structural es => es

end

mutual

/-- Which of two values comes first; nothing if a float that is no number decides it. -/
def order? : Value → Value → Evaluated (Option Ordering)
  | .list xs, w =>
    match w with
    | .list ys => itemsOrder? xs ys
    | w => .error (.type (.unordered .list w.kind))
  | .str s, w =>
    match w with
    | .str t => .ok (some (compare s t))
    | w => .error (.type (.unordered .str w.kind))
  | v, w =>
    match v.numeric?, w.numeric? with
    | some x, some y => .ok (x.order? y)
    | _, _ => .error (.type (.unordered v.kind w.kind))
termination_by structural v => v

/-- The order of two lists: that of the first items that differ, else that of the lengths. -/
def itemsOrder? : List Value → List Value → Evaluated (Option Ordering)
  | [], ys => .ok (some (if ys.isEmpty then .eq else .lt))
  | x :: xs, ys =>
    match ys with
    | [] => .ok (some .gt)
    | y :: ys => if equal x y then itemsOrder? xs ys else order? x y
termination_by structural xs => xs

end

/-- Identity of plain data: the same sort and the same value.  Floats, lists and mappings are
identical to nothing. -/
def identical : Value → Value → Bool
  | .null, .null => true
  | .bool a, .bool b => a == b
  | .int a, .int b => a == b
  | .str s, .str t => s == t
  | _, _ => false

end Value

end ConfigTree
