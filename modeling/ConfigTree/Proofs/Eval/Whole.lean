import ConfigTree.Eval.Arithmetic
import Mathlib.Algebra.Ring.Parity
import Mathlib.Algebra.Ring.Int.Parity

/-!
# Arithmetic on whole numbers is exact

What is computed with whole numbers, truth values among them, is the number that it is in
arithmetic without bounds, or it is refused as an overflow.  It never wraps, and it is refused
only where no word holds the result.

For powers this rests on a bound: unless the base is -1, 0 or 1, the sixty-fourth power of a
number and all after it are too large, so that no more than the first sixty-three have to be
computed.

## Main definitions

* `Operation.Exact` — an outcome is a number, or an overflow if no word holds that.

## Main results

* `Operation.exact_fit`, `Operation.exact_numeric` — how an exact outcome comes about.
* `Operation.eq_pow_of_wholePower?`, `Operation.not_fits_of_wholePower?` — the powers that are
  computed, and those that are not.
* `whole_exact` — sums, differences, products, negatives and powers.
-/

namespace ConfigTree

namespace Operation

/-- The outcome of an operation is the number `z`, or an overflow if no word holds that. -/
def Exact (symbol : String) (z : Int) (outcome : Evaluated Value) : Prop :=
  (∀ v, outcome = .ok v ↔ ∃ w : Int64, v = .int w ∧ w.toInt = z)
    ∧ ∀ fault, outcome = .error fault
      ↔ fault = .overflow (.operation symbol) ∧ (z < Number.least ∨ Number.greatest < z)

theorem exact_overflow {symbol : String} {z : Int} (h : z < Number.least ∨ Number.greatest < z) :
    Exact symbol z (.error (.overflow (.operation symbol))) := by
  have hnone : Number.word? z = none := Number.word?_eq_none_iff.mpr h
  refine ⟨fun v => ⟨nofun, ?_⟩, fun fault => ?_⟩
  · rintro ⟨w, -, hw⟩
    rw [Number.word?_eq_some_iff.mpr hw] at hnone
    cases hnone
  · rw [Except.error.injEq, eq_comm, and_iff_left h]

/-- A number brought back to a word. -/
theorem exact_fit (symbol : String) (z : Int) : Exact symbol z (fit symbol z) := by
  rw [fit]
  cases hz : Number.word? z with
  | none => exact exact_overflow (Number.word?_eq_none_iff.mp hz)
  | some w =>
    have hw : w.toInt = z := Number.word?_eq_some_iff.mp hz
    refine ⟨fun v => ?_, fun fault => ⟨nofun, ?_⟩⟩
    · constructor
      · intro h
        exact ⟨w, (Except.ok.inj h).symm, hw⟩
      · rintro ⟨u, rfl, hu⟩
        rw [orOverflow, Int64.toInt_inj.mp (hu.trans hw.symm)]
    · rintro ⟨-, hout⟩
      rw [Number.word?_eq_none_iff.mpr hout] at hz
      cases hz

variable {l r : Value} {a b : Int64}

/-- An operation on numbers is exact where both operands are whole. -/
theorem exact_numeric (symbol : String) (whole : Int → Int → Int) (real : Float → Float → Float)
    (hl : l.toInt64? = some a) (hr : r.toInt64? = some b) :
    Exact symbol (whole a.toInt b.toInt) (numeric symbol whole real l r) := by
  rw [numeric, Value.numeric?_of_toInt64? hl, Value.numeric?_of_toInt64? hr]
  exact exact_fit symbol _

theorem exact_add (hl : l.toInt64? = some a) (hr : r.toInt64? = some b) :
    Exact "+" (a.toInt + b.toInt) (add l r) := by
  have h := exact_numeric "+" (· + ·) (· + ·) hl hr
  -- texts and lists are looked at first, and neither operand is one
  rcases Value.eq_of_toInt64? hl with rfl | ⟨t, rfl, -⟩ <;>
    rcases Value.eq_of_toInt64? hr with rfl | ⟨u, rfl, -⟩ <;> exact h

theorem exact_sub (hl : l.toInt64? = some a) (hr : r.toInt64? = some b) :
    Exact "-" (a.toInt - b.toInt) (sub l r) := exact_numeric "-" (· - ·) (· - ·) hl hr

theorem exact_mul (hl : l.toInt64? = some a) (hr : r.toInt64? = some b) :
    Exact "*" (a.toInt * b.toInt) (mul l r) := by
  have h := exact_numeric "*" (· * ·) (· * ·) hl hr
  rcases Value.eq_of_toInt64? hl with rfl | ⟨t, rfl, -⟩ <;>
    rcases Value.eq_of_toInt64? hr with rfl | ⟨u, rfl, -⟩ <;> exact h

theorem exact_minus (hl : l.toInt64? = some a) : Exact "-" (-a.toInt) (minus l) := by
  rw [minus, Value.numeric?_of_toInt64? hl]
  exact exact_fit "-" _

/-! ### Powers -/

/-- The powers of -1 take turns, and those of 0 and 1 are the base, but for the first. -/
theorem ite_eq_pow {a : Int} (h : a.natAbs ≤ 1) (n : Nat) :
    (if n = 0 then 1 else if a = -1 ∧ n % 2 = 0 then 1 else a) = a ^ n := by
  rcases Nat.eq_zero_or_pos n with rfl | hpos
  · rw [if_pos rfl, pow_zero]
  rw [if_neg (Nat.ne_of_gt hpos)]
  have hbase : a = -1 ∨ a = 0 ∨ a = 1 := by omega
  rcases hbase with rfl | rfl | rfl
  · rcases Nat.even_or_odd n with heven | hodd
    · rw [if_pos ⟨rfl, Nat.even_iff.mp heven⟩, heven.neg_one_pow]
    · have hone : n % 2 = 1 := Nat.odd_iff.mp hodd
      rw [if_neg (by omega), hodd.neg_one_pow]
  · rw [if_neg (by omega), zero_pow (Nat.ne_of_gt hpos)]
  · rw [if_neg (by omega), one_pow]

/-- A power that is computed is the power. -/
theorem eq_pow_of_wholePower? {a p : Int} {n : Nat} (h : wholePower? a n = some p) :
    p = a ^ n := by
  unfold wholePower? at h
  split at h
  · next hbase => exact (Option.some.inj h).symm.trans (ite_eq_pow hbase n)
  · split at h
    · exact (Option.some.inj h).symm
    · cases h

/-- A power that is not computed is too large for a word. -/
theorem not_fits_of_wholePower? {a : Int} {n : Nat} (h : wholePower? a n = none) :
    a ^ n < Number.least ∨ Number.greatest < a ^ n := by
  unfold wholePower? at h
  split at h
  · cases h
  split at h
  · cases h
  next hbase hexponent =>
  -- only a base of two or more with an exponent of 64 or more is not computed
  have hlarge : 2 ^ 64 ≤ (a ^ n).natAbs := by
    calc 2 ^ 64 ≤ a.natAbs ^ 64 := Nat.pow_le_pow_left (by omega) 64
      _ ≤ a.natAbs ^ n := Nat.pow_le_pow_right (by omega) (by omega)
      _ = (a ^ n).natAbs := (Int.natAbs_pow a n).symm
  unfold Number.least Number.greatest
  omega

/-- A power with an exponent within the limit is exact. -/
theorem exact_pow (hl : l.toInt64? = some a) (hr : r.toInt64? = some b) (hb : 0 ≤ b.toInt)
    (hlimit : b.toInt ≤ maxPower) : Exact "**" (a.toInt ^ b.toInt.toNat) (pow l r) := by
  rw [pow, Value.numeric?_of_toInt64? hl, Value.numeric?_of_toInt64? hr]
  dsimp only
  rw [if_neg (by omega), if_pos hb]
  -- a power that is not computed is an overflow all the same
  cases hp : wholePower? a.toInt b.toInt.toNat with
  | none => exact exact_overflow (not_fits_of_wholePower? hp)
  | some p =>
    obtain rfl := eq_pow_of_wholePower? hp
    exact exact_fit "**" _

/-- A power is refused for its exponent exactly if that is over the limit. -/
theorem pow_eq_limit_iff (hl : l.toInt64? = some a) (hr : r.toInt64? = some b)
    (hb : 0 ≤ b.toInt) : pow l r = .error (.limit .exponent) ↔ (maxPower : Int) < b.toInt := by
  constructor
  · intro h
    -- within the limit the outcome is exact, and the limit is no outcome of that
    by_contra hlimit
    obtain ⟨hfault, -⟩ := ((exact_pow hl hr hb (by omega)).2 _).mp h
    cases hfault
  · intro hlimit
    rw [pow, Value.numeric?_of_toInt64? hl, Value.numeric?_of_toInt64? hr]
    dsimp only
    rw [if_pos (by omega)]

end Operation

open Operation

/-- **Arithmetic on whole numbers is exact**, or refused as an overflow where no word holds the
result.  A power with an exponent over the limit is refused for that, whatever its base. -/
theorem whole_exact (l r : Value) (a b : Int64) (hl : l.toInt64? = some a)
    (hr : r.toInt64? = some b) :
    Exact "+" (a.toInt + b.toInt) (add l r)
    ∧ Exact "-" (a.toInt - b.toInt) (sub l r)
    ∧ Exact "*" (a.toInt * b.toInt) (mul l r)
    ∧ Exact "-" (-a.toInt) (minus l)
    ∧ (0 ≤ b.toInt →
        (pow l r = .error (.limit .exponent) ↔ (maxPower : Int) < b.toInt)
        ∧ (b.toInt ≤ maxPower → Exact "**" (a.toInt ^ b.toInt.toNat) (pow l r))) :=
  ⟨exact_add hl hr, exact_sub hl hr, exact_mul hl hr, exact_minus hl,
    fun hb => ⟨pow_eq_limit_iff hl hr hb, exact_pow hl hr hb⟩⟩

/-- The least word is a power of -2.  It has no negative, it cannot be taken times -1, and
neither can the truth value of one be taken from it. -/
theorem whole_exact_of_least :
    (Value.int (-2)).toInt64? = some (-2) ∧ (Value.int 63).toInt64? = some 63
      ∧ pow (.int (-2)) (.int 63) = .ok (.int Int64.minValue)
      ∧ minus (.int Int64.minValue) = .error (.overflow (.operation "-"))
      ∧ mul (.int Int64.minValue) (.int (-1)) = .error (.overflow (.operation "*"))
      ∧ sub (.int Int64.minValue) (.bool true) = .error (.overflow (.operation "-"))
      ∧ pow (.int (-1)) (.int 4000001) = .error (.limit .exponent) := by
  have hpower := whole_exact (.int (-2)) (.int 63) (-2) 63 rfl rfl
  have hleast := whole_exact (.int Int64.minValue) (.int (-1)) Int64.minValue (-1) rfl rfl
  have htruth := whole_exact (.int Int64.minValue) (.bool true) Int64.minValue 1 rfl rfl
  have hlimit := whole_exact (.int (-1)) (.int 4000001) (-1) 4000001 rfl rfl
  obtain ⟨-, -, -, -, hpow⟩ := hpower
  obtain ⟨-, -, hmul, hminus, -⟩ := hleast
  obtain ⟨-, hsub, -, -, -⟩ := htruth
  obtain ⟨-, -, -, -, hover⟩ := hlimit
  refine ⟨rfl, rfl, ?_, ?_, ?_, ?_, ?_⟩
  · exact (((hpow (by decide)).2 (by decide)).1 _).mpr ⟨Int64.minValue, rfl, by decide⟩
  · exact (hminus.2 _).mpr ⟨rfl, by decide⟩
  · exact (hmul.2 _).mpr ⟨rfl, by decide⟩
  · exact (hsub.2 _).mpr ⟨rfl, by decide⟩
  · exact (hover (by decide)).1.mpr (by decide)

end ConfigTree
