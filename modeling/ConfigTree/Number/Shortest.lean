import ConfigTree.Number.Binary

/-!
# The shortest decimal of a float

Among the decimal numbers that read back as a given float, the ones with the
fewest digits, and of those the nearest.  The search is exact: the float and the
ends of the interval that rounds to it are whole multiples of a power of two, and
each is compared with the two neighbours of the float on a grid of powers of ten.

## Main definitions

* `Interval` — a positive float with the reals that round to it.
* `shortest` — the digits and their place.
-/

namespace ConfigTree.Number

/-- What becomes of a value exactly between two candidates. -/
inductive Tie
  /-- The upper candidate. -/
  | up
  /-- The candidate with the even last digit. -/
  | even
  deriving DecidableEq

/-- A positive float and the reals that round to it, all over the common denominator `den`. -/
structure Interval where
  /-- The lower end. -/
  low : Nat
  /-- The float itself. -/
  value : Nat
  /-- The upper end. -/
  high : Nat
  /-- The common denominator. -/
  den : Nat
  /-- Whether the ends belong to the interval. -/
  closed : Bool

/-- The interval of a finite, positive float.  Its ends lie half-way to the neighbours;
the lower neighbour of a power of two is at half the distance. -/
def Interval.ofFloat (x : Float) : Interval :=
  let m := mantissa x
  let q := exponent x - 2
  let scale (n : Nat) : Nat := if 0 ≤ q then n <<< q.toNat else n
  { low := scale (4 * m - if m = 4503599627370496 ∧ 1 < biased x then 1 else 2)
    value := scale (4 * m)
    high := scale (4 * m + 2)
    den := if 0 ≤ q then 1 else 1 <<< (-q).toNat
    closed := m % 2 = 0 }

/-- Whether `n · 10 ^ scale` lies in the interval. -/
def Interval.has (i : Interval) (n : Nat) (scale : Int) : Bool :=
  let num := if 0 ≤ scale then n * Nat.pow 10 scale.toNat * i.den else n * i.den
  let unit := if 0 ≤ scale then 1 else Nat.pow 10 (-scale).toNat
  if i.closed then decide (i.low * unit ≤ num) && decide (num ≤ i.high * unit)
  else decide (i.low * unit < num) && decide (num < i.high * unit)

/-- The float over `10 ^ scale` as a numerator and a denominator. -/
def Interval.over (i : Interval) (scale : Int) : Nat × Nat :=
  if 0 ≤ scale then (i.value, i.den * Nat.pow 10 scale.toNat)
  else (i.value * Nat.pow 10 (-scale).toNat, i.den)

/-- The neighbour of the float on the grid of `10 ^ scale` that lies in the interval, the
nearer one if both do. -/
def Interval.onGrid? (i : Interval) (tie : Tie) (scale : Int) : Option Nat :=
  let (num, den) := i.over scale
  let below := num / den
  let twice := 2 * (num % den)
  let above := below + 1
  match i.has below scale, i.has above scale with
  | true, true =>
    if twice < den then some below
    else if den < twice then some above
    else match tie with
      | .up => some above
      | .even => some (if below % 2 = 0 then below else above)
  | true, false => some below
  | false, true => some above
  | false, false => none

/-- The first grid with a hit, from the grid of `10 ^ scale` on to finer ones. -/
def Interval.search (i : Interval) (tie : Tie) : Nat → Int → Nat × Int
  | 0, scale => (i.value / i.den, scale)
  | n + 1, scale =>
    match i.onGrid? tie scale with
    | some 0 | none => i.search tie n (scale - 1)
    | some d => (d, scale)

/-- The greatest `k` with `10 ^ k ≤ num / den`, searched downward from `k`. -/
def leadingPlace (num den : Nat) : Nat → Int → Int
  | 0, k => k
  | n + 1, k =>
    let reached := if 0 ≤ k then decide (den * Nat.pow 10 k.toNat ≤ num)
      else decide (den ≤ num * Nat.pow 10 (-k).toNat)
    if reached then k else leadingPlace num den n (k - 1)

/-- A place at or just above the leading one, from the lengths of the two numbers in bits. -/
def placeAbove (num den : Nat) : Int :=
  ((Nat.log2 num : Int) - (Nat.log2 den : Int) + 1) * 30103 / 100000 + 1

/-- The digits without their trailing zeros, whose number is added to the place. -/
def dropZeros (d : Nat) (scale : Int) : Nat × Int :=
  if d = 0 ∨ d % 10 ≠ 0 then (d, scale) else dropZeros (d / 10) (scale + 1)
termination_by d
decreasing_by omega

/-- The digits `d` and the place `k` of the shortest decimal `d · 10 ^ k` of a finite,
positive float. -/
def shortest (tie : Tie) (x : Float) : Nat × Int :=
  let i := Interval.ofFloat x
  let top := leadingPlace i.value i.den 4 (placeAbove i.value i.den)
  let (d, scale) := i.search tie 18 top
  dropZeros d scale

end ConfigTree.Number
