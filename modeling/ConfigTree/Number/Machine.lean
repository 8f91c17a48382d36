import ConfigTree.Number.Word

/-!
# Words of a machine

Quotients, remainders, shifts, positions and the items of a range are computed with words, as a
machine does it.  Some steps are tested for an overflow.  The others are left to the machine, since
what is known before them is taken to be enough, and what becomes of an overflow there is up to
the machine: it may go on modulo `2 ^ 64`, or stop.

## Main definitions

* `Machine` — how the steps are computed that nothing tests.
* `Machine.wrapping`, `Machine.trapping` — the machine that always goes on, and one that stops.
* `div?`, `rem?` — the quotient and the remainder, tested.
* `Machine.floorDiv?`, `Machine.floorMod?` — the same, rounded down.
* `shiftLeft?`, `shiftRight` — shifts, the one to the left tested.
* `Machine.fromEnd` — a position that counts from the end if it is negative.
* `Machine.term` — an item of a range.
-/

namespace ConfigTree.Number

/-- How a machine computes the steps that nothing tests.  It may stop at one of them, and so it
gives an outcome. -/
structure Machine (m : Type → Type) where
  /-- A sum. -/
  add : Int64 → Int64 → m Int64
  /-- A difference. -/
  sub : Int64 → Int64 → m Int64
  /-- A product. -/
  mul : Int64 → Int64 → m Int64
  /-- A remainder with the sign of the dividend. -/
  rem : Int64 → Int64 → m Int64

/-- No quotient: the divisor is zero, or the quotient is one more than the greatest word. -/
def Undivided (a b : Int64) : Prop := b = 0 ∨ a = Int64.minValue ∧ b = -1

instance (a b : Int64) : Decidable (Undivided a b) :=
  inferInstanceAs (Decidable (b = 0 ∨ a = Int64.minValue ∧ b = -1))

/-- A machine that computes modulo `2 ^ 64` and never stops. -/
def Machine.wrapping (m : Type → Type) [Pure m] : Machine m where
  add a b := pure (a + b)
  sub a b := pure (a - b)
  mul a b := pure (a * b)
  rem a b := pure (a % b)

/-- The word for a number, or `stop` if no word holds it. -/
def wordOr {m : Type → Type} [Pure m] (stop : m Int64) (n : Int) : m Int64 :=
  match word? n with
  | some w => pure w
  | none => stop

/-- A machine that stops at a step whose result no word holds, and at a remainder without a
quotient. -/
def Machine.trapping {m : Type → Type} [Pure m] (stop : m Int64) : Machine m where
  add a b := wordOr stop (a.toInt + b.toInt)
  sub a b := wordOr stop (a.toInt - b.toInt)
  mul a b := wordOr stop (a.toInt * b.toInt)
  rem a b := if Undivided a b then stop else wordOr stop (a.toInt.tmod b.toInt)

/-- The quotient cut off at the point, if there is one. -/
def div? (a b : Int64) : Option Int64 := if Undivided a b then none else some (a / b)

/-- The remainder with the sign of the dividend.  There is none without a quotient. -/
def rem? (a b : Int64) : Option Int64 := if Undivided a b then none else some (a % b)

/-- A word shifted to the left, unless a bit is lost: shifted back, it has to be the same.
From 64 places on nothing is shifted. -/
def shiftLeft? (a : Int64) (n : Nat) : Option Int64 :=
  if 64 ≤ n then none
  else
    let shifted := a <<< Int64.ofNat n
    if shifted >>> Int64.ofNat n = a then some shifted else none

/-- A word shifted to the right, its sign kept.  More than 63 places are as good as 63. -/
def shiftRight (a : Int64) (n : Nat) : Int64 := a >>> Int64.ofNat (min n 63)

namespace Machine

variable {m : Type → Type} [Monad m] (M : Machine m)

/-- The quotient rounded down: one less than the quotient cut off, if that was rounded up. -/
def floorDiv? (a b : Int64) : m (Option Int64) :=
  match div? a b with
  | none => pure none
  | some q => do
    let r ← M.rem a b
    if r != 0 && (a < 0) != (b < 0) then return some (← M.sub q 1) else return some q

/-- The remainder with the sign of the divisor, which is added if the sign is another one. -/
def floorMod? (a b : Int64) : m (Option Int64) :=
  match rem? a b with
  | none => pure none
  | some r => do
    if r != 0 && (r < 0) != (b < 0) then return some (← M.add r b) else return some r

/-- The position that an index means in something of a length; a negative one counts from the
end. -/
def fromEnd (i : Int64) (length : Nat) : m Int64 :=
  if i < 0 then M.add i (Int64.ofNat length) else pure i

/-- What comes `i` steps of `s` after `a`. -/
def term (a s : Int64) (i : Nat) : m Int64 := do M.add a (← M.mul (Int64.ofNat i) s)

end Machine

end ConfigTree.Number
