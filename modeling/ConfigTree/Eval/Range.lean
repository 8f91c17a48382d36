import ConfigTree.Eval.Error
import ConfigTree.Number.Binary
import ConfigTree.Number.Machine
import ConfigTree.Value.Text

/-!
# Ranges of numbers

Two ways to list numbers from a start to a stop: a count of evenly spaced floats
with both ends, and steps of one size that end before the stop.  How the items of a range
of whole numbers are computed is up to a machine, as nothing tests whether a word holds
their distance from the start.

## Main definitions

* `Range.linspace`, `Range.arange`.
* `Range.halting` — the machine that stops, and tells so by a failure.
-/

namespace ConfigTree.Range

open Number (Machine)

/-- The machine that stops at an overflow. -/
def halting : Machine Evaluated := .trapping (.error .halted)

/-- A parameter as a float; a truth value is no number here. -/
def number (parameter : String) (v : Value) : Evaluated Float :=
  match v with
  | .int n => .ok n.toFloat
  | .float x => .ok x
  | v => .error (.type (.notNumber parameter v.kind))

/-- A count within the limit. -/
def checkCount (n : Nat) : Evaluated Unit :=
  if maxLength < n then .error (.limit (.count n)) else .ok ()

/-- A natural number, written as a whole number or as a float without a fraction. -/
def count (v : Value) : Evaluated Nat :=
  match v with
  | .int n => if 0 ≤ n.toInt then .ok n.toInt.toNat else .error (.value (.count v.literal))
  | .float x =>
    if Number.isWhole x && 0 ≤ x then .ok x.toUInt64.toNat
    else .error (.value (.count v.literal))
  | v => .error (.value (.count v.literal))

/-- Evenly spaced floats, as many as `n`, the first `start` and the last `stop`; a single one
is `start`. -/
def spaced (start stop : Float) (n : Nat) : List Value :=
  match n with
  | 0 => []
  | 1 => [.float start]
  | n =>
    let step := (stop - start) / (n - 1).toFloat
    (List.range n).map fun i =>
      .float (if i = n - 1 then stop else start + step * i.toFloat)

/-- A count of evenly spaced floats from `start` to `stop`, both included. -/
def linspace (start stop n : Value) : Evaluated (List Value) := do
  let start ← number "start" start
  let stop ← number "stop" stop
  let n ← count n
  checkCount n
  return spaced start stop n

/-- How many whole numbers there are from `a` on in steps of `s` before `b`. -/
def stepCount (a b s : Int) : Nat :=
  let span := if 0 < s then b - a else a - b
  if span ≤ 0 then 0 else (span.toNat + s.natAbs - 1) / s.natAbs

/-- The words from `a` on in steps of `s`. -/
def stepped (M : Machine Evaluated) (a s : Int64) (n : Nat) : Evaluated (List Value) :=
  (List.range n).mapM fun i => Value.int <$> M.term a s i

/-- Whole numbers from `a` on in steps of `s` before `b`. -/
def wholeRange (M : Machine Evaluated) (a b s : Int64) : Evaluated (List Value) :=
  if s = 0 then .error (.value .zeroStep)
  else do
    let n := stepCount a.toInt b.toInt s.toInt
    checkCount n
    stepped M a s n

/-- Floats from `a` on in steps of `s` before `b`.  A range without an end is empty. -/
def floatRange (a b s : Float) : Evaluated (List Value) :=
  if s == 0.0 then .error (.value .zeroStep)
  else do
    let span := ((b - a) / s).ceil
    let n := if span.isFinite && 0.0 < span then span.toUInt64.toNat else 0
    checkCount n
    return (List.range n).map fun i => .float (a + s * i.toFloat)

/-- Numbers from `start` on in steps of `step` before `stop`; whole ones if all three are. -/
def arange (M : Machine Evaluated) (start stop step : Value) : Evaluated (List Value) :=
  match start, stop, step with
  | .int a, .int b, .int s => wholeRange M a b s
  | _, _, _ => do
    let a ← number "start" start
    let b ← number "stop" stop
    let s ← number "step" step
    floatRange a b s

end ConfigTree.Range
