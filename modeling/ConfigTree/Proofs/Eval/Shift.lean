import ConfigTree.Eval.OperatorTable
import ConfigTree.Proofs.Eval.Whole
import ConfigTree.Proofs.Number.Machine

/-!
# Shifts of whole numbers

A shift to the left multiplies by a power of two and a shift to the right divides by it, rounding
down.  The one to the left is an overflow where no word holds the product, which shows in that
shifting back does not give the same word: below 64 places, what the word holds differs from the
product by a multiple of `2 ^ 64`, and so by a multiple of the power, and only the product itself
is divided by the power without a rest.

From 64 places on a shift to the left is refused, though zero would stay zero, and from `2 ^ 32`
on one to the right is refused as well.

## Main results

* `Number.bmod_ediv_eq_iff` — what shifting back tells.
* `Number.shiftLeft?_eq`, `Number.toInt_shiftRight` — shifts of words in numbers.
* `shift_exact` — the operators.
* `not_shift_exact_of_count` — not all shifts are made whose result fits.
-/

namespace ConfigTree

namespace Number

/-! ### Shifts of words -/

/-- Below 64, the machine takes the count as it is. -/
theorem toNat_smod_ofNat {n : Nat} (h : n < 64) :
    ((Int64.ofNat n).toBitVec.smod 64).toNat = n := by
  -- 64 cases, since the machine takes the count modulo 64
  have hall : ∀ k < 64, ((Int64.ofNat k).toBitVec.smod 64).toNat = k := by decide
  exact hall n h

theorem toInt_shiftRight_ofNat (w : Int64) {n : Nat} (h : n < 64) :
    (w >>> Int64.ofNat n).toInt = w.toInt / 2 ^ n := by
  rw [← Int64.toInt_toBitVec, Int64.toBitVec_shiftRight, BitVec.toInt_sshiftRight',
    toNat_smod_ofNat h, Int64.toInt_toBitVec, Int.shiftRight_eq_div_pow]
  push_cast
  rfl

theorem toInt_shiftLeft_ofNat (w : Int64) {n : Nat} (h : n < 64) :
    (w <<< Int64.ofNat n).toInt = (w.toInt * 2 ^ n).bmod (2 ^ 64) := by
  rw [← Int64.toInt_toBitVec, Int64.toBitVec_shiftLeft, BitVec.shiftLeft_eq', toNat_smod_ofNat h,
    BitVec.toInt_shiftLeft, Nat.shiftLeft_eq, ← Int64.toInt_toBitVec w,
    BitVec.toInt_eq_toNat_bmod w.toBitVec, Int.bmod_mul_bmod]
  push_cast
  rfl

/-- A product with a power of two, taken modulo `2 ^ 64`, is divided by the power again exactly
if it fits. -/
theorem bmod_ediv_eq_iff {x : Int} {n : Nat} (h : n ≤ 64) :
    (x * 2 ^ n).bmod (2 ^ 64) / 2 ^ n = x ↔ Fits (x * 2 ^ n) := by
  have hpow : (2 : Int) ^ n ≠ 0 := pow_ne_zero n two_ne_zero
  constructor
  · intro hback
    have hcongr : ((2 ^ 64 : Nat) : Int) ∣ x * 2 ^ n - (x * 2 ^ n).bmod (2 ^ 64) :=
      Int.dvd_self_sub_bmod
    have hdvd : (2 : Int) ^ n ∣ ((2 ^ 64 : Nat) : Int) := by
      push_cast
      exact pow_dvd_pow 2 h
    -- the power divides the product, and so what is left of it modulo `2 ^ 64`
    have hrest : (2 : Int) ^ n ∣ (x * 2 ^ n).bmod (2 ^ 64) :=
      (dvd_sub_right (Dvd.intro_left x rfl)).mp (hdvd.trans hcongr)
    have heq : (x * 2 ^ n).bmod (2 ^ 64) = x * 2 ^ n := by
      rw [← Int.ediv_mul_cancel hrest, hback]
    have hlower : -(((2 ^ 64 : Nat) : Int) / 2) ≤ (x * 2 ^ n).bmod (2 ^ 64) :=
      Int.le_bmod (by decide)
    have hupper : (x * 2 ^ n).bmod (2 ^ 64) < (((2 ^ 64 : Nat) : Int) + 1) / 2 :=
      Int.bmod_lt (by decide)
    rw [heq] at hlower hupper
    rw [fits_iff]
    omega
  · intro hfits
    rw [bmod_eq_of_fits hfits, Int.mul_ediv_cancel _ hpow]

/-- **A shift to the left is the word of the product**, below 64 places. -/
theorem shiftLeft?_eq (a : Int64) {n : Nat} (h : n < 64) :
    shiftLeft? a n = word? (a.toInt * 2 ^ n) := by
  have hback : (a <<< Int64.ofNat n) >>> Int64.ofNat n = a ↔ Fits (a.toInt * 2 ^ n) := by
    -- the check of the program, back again and compared, is that the product fits
    rw [← Int64.toInt_inj, toInt_shiftRight_ofNat _ h, toInt_shiftLeft_ofNat a h,
      bmod_ediv_eq_iff h.le]
  rw [shiftLeft?, if_neg (not_le.mpr h)]
  simp only [hback]
  split
  · next hfits =>
    rw [eq_comm, word?_eq_some_iff, toInt_shiftLeft_ofNat a h, bmod_eq_of_fits hfits]
  · next hfits => rw [word?_eq_none_of_not_fits hfits]

/-- A word by a power of two that is no less than half of all words is 0 or -1. -/
theorem toInt_ediv_pow_of_le (a : Int64) {n : Nat} (h : 63 ≤ n) :
    a.toInt / 2 ^ n = if a.toInt < 0 then -1 else 0 := by
  have hpow : (2 : Int) ^ 63 ≤ 2 ^ n := pow_le_pow_right₀ (by decide) h
  have hfits := fits_toInt a
  rw [fits_iff] at hfits
  split
  · next hneg => exact Int.ediv_eq_neg_one_of_neg_of_le hneg (by omega)
  · next hnonneg => exact Int.ediv_eq_zero_of_lt (not_lt.mp hnonneg) (by omega)

/-- **A shift to the right divides by the power of two**, whatever the count. -/
theorem toInt_shiftRight (a : Int64) (n : Nat) : (shiftRight a n).toInt = a.toInt / 2 ^ n := by
  rw [shiftRight, toInt_shiftRight_ofNat a (by omega)]
  -- the program stops at 63 places; more leave the same, the sign
  rcases Nat.le_total n 63 with hle | hge
  · rw [Nat.min_eq_left hle]
  · rw [Nat.min_eq_right hge, toInt_ediv_pow_of_le a le_rfl, toInt_ediv_pow_of_le a hge]

end Number

namespace Operation

/-! ### The operators -/

variable {l r : Value} {a s : Int64}

theorem shiftCount_of_neg (h : s.toInt < 0) : shiftCount s = .error (.value .negativeShift) := by
  rw [shiftCount, if_pos h]

theorem shiftCount_of_lt (h : 0 ≤ s.toInt) (hlt : s.toInt < 2 ^ 32) :
    shiftCount s = .ok s.toInt.toNat := by
  rw [shiftCount, if_neg (by omega), if_neg (by omega)]

theorem shiftCount_of_le (h : 2 ^ 32 ≤ s.toInt) :
    shiftCount s = .error (.overflow (.operation "shift")) := by
  rw [shiftCount, if_neg (by omega), if_pos (by omega)]

theorem whole_eq (symbol : String) (f : Int64 → Int64 → Evaluated Value)
    (hl : l.toInt64? = some a) (hr : r.toInt64? = some s) : whole symbol f l r = f a s := by
  rw [whole, hl, hr]

/-- A shift whose count is refused is refused for that. -/
theorem shift_of_error {e : EvalError} (hl : l.toInt64? = some a) (hr : r.toInt64? = some s)
    (h : shiftCount s = .error e) : shiftLeft l r = .error e ∧ shiftRight l r = .error e := by
  rw [shiftLeft, shiftRight, whole_eq _ _ hl hr, whole_eq _ _ hl hr, h]
  exact ⟨rfl, rfl⟩

/-- Below 64 places, a shift to the left is the word of the product. -/
theorem shiftLeft_eq_fit (hl : l.toInt64? = some a) (hr : r.toInt64? = some s)
    (h : 0 ≤ s.toInt) (hlt : s.toInt < 64) :
    shiftLeft l r = fit "<<" (a.toInt * 2 ^ s.toInt.toNat) := by
  rw [shiftLeft, whole_eq _ _ hl hr, shiftCount_of_lt h (by omega), fit,
    ← Number.shiftLeft?_eq a (by omega)]
  rfl

/-- From 64 places on, a shift to the left is refused. -/
theorem shiftLeft_of_le (hl : l.toInt64? = some a) (hr : r.toInt64? = some s)
    (h : 64 ≤ s.toInt) : ∃ symbol, shiftLeft l r = .error (.overflow (.operation symbol)) := by
  by_cases hlt : s.toInt < 2 ^ 32
  -- the count is taken, and the shift is refused for it
  · refine ⟨"<<", ?_⟩
    rw [shiftLeft, whole_eq _ _ hl hr, shiftCount_of_lt (by omega) hlt]
    show orOverflow "<<" (Number.shiftLeft? a s.toInt.toNat) = _
    rw [Number.shiftLeft?, if_pos (by omega)]
    rfl
  · exact ⟨"shift", (shift_of_error hl hr (shiftCount_of_le (not_lt.mp hlt))).1⟩

/-- Below `2 ^ 32` places, a shift to the right divides by the power of two. -/
theorem shiftRight_eq_ok (hl : l.toInt64? = some a) (hr : r.toInt64? = some s)
    (h : 0 ≤ s.toInt) (hlt : s.toInt < 2 ^ 32) :
    ∃ w : Int64, shiftRight l r = .ok (.int w) ∧ w.toInt = a.toInt / 2 ^ s.toInt.toNat := by
  refine ⟨Number.shiftRight a s.toInt.toNat, ?_, Number.toInt_shiftRight a s.toInt.toNat⟩
  rw [shiftRight, whole_eq _ _ hl hr, shiftCount_of_lt h hlt]
  rfl

/-- A shift to the left that is made is undone by one to the right. -/
theorem shiftRight_of_shiftLeft (hl : l.toInt64? = some a) (hr : r.toInt64? = some s) {v : Value}
    (h : shiftLeft l r = .ok v) : shiftRight v r = .ok (.int a) := by
  -- with any other count the shift to the left is refused
  have hcount : 0 ≤ s.toInt ∧ s.toInt < 64 := by
    by_contra hout
    rw [not_and_or, not_le, not_lt] at hout
    rcases hout with hneg | hlarge
    · rw [(shift_of_error hl hr (shiftCount_of_neg hneg)).1] at h
      cases h
    · obtain ⟨symbol, herror⟩ := shiftLeft_of_le hl hr hlarge
      rw [herror] at h
      cases h
  obtain ⟨hnonneg, hlt⟩ := hcount
  rw [shiftLeft_eq_fit hl hr hnonneg hlt] at h
  obtain ⟨w, rfl, hw⟩ := ((exact_fit "<<" _).1 v).mp h
  obtain ⟨u, hu, hdiv⟩ := shiftRight_eq_ok (l := .int w) rfl hr hnonneg (by omega)
  have hpow : (2 : Int) ^ s.toInt.toNat ≠ 0 := pow_ne_zero _ two_ne_zero
  rw [hw, Int.mul_ediv_cancel _ hpow] at hdiv
  rw [hu, Int64.toInt_inj.mp hdiv]

end Operation

open Operation

/-- **Shifts are products with powers of two and floors of fractions by them.**  A negative count
is refused as such.  A shift to the left is exact below 64 places and an overflow from there on;
one to the right is given below `2 ^ 32` places and is an overflow from there on.  A shift to the
left that is made is undone by one to the right. -/
theorem shift_exact (l r : Value) (a s : Int64) (hl : l.toInt64? = some a)
    (hr : r.toInt64? = some s) :
    let left := OperatorTable.withBits.binary .shiftLeft
    let right := OperatorTable.withBits.binary .shiftRight
    (s.toInt < 0 → left l r = .error (.value .negativeShift)
      ∧ right l r = .error (.value .negativeShift))
    ∧ (0 ≤ s.toInt → s.toInt < 64 → Exact "<<" (a.toInt * 2 ^ s.toInt.toNat) (left l r))
    ∧ (64 ≤ s.toInt → ∃ symbol, left l r = .error (.overflow (.operation symbol)))
    ∧ (0 ≤ s.toInt → s.toInt < 2 ^ 32 → ∃ w : Int64, right l r = .ok (.int w)
      ∧ w.toInt = ⌊(a.toInt : ℚ) / 2 ^ s.toInt.toNat⌋)
    ∧ (2 ^ 32 ≤ s.toInt → right l r = .error (.overflow (.operation "shift")))
    ∧ ∀ v, left l r = .ok v → right v r = .ok (.int a) := by
  intro left right
  refine ⟨?_, ?_, ?_, ?_, ?_, ?_⟩
  · intro hneg
    exact shift_of_error hl hr (shiftCount_of_neg hneg)
  · intro hnonneg hlt
    show Exact "<<" _ (shiftLeft l r)
    rw [shiftLeft_eq_fit hl hr hnonneg hlt]
    exact exact_fit "<<" _
  · intro hlarge
    exact shiftLeft_of_le hl hr hlarge
  · intro hnonneg hlt
    obtain ⟨w, hright, hw⟩ := shiftRight_eq_ok hl hr hnonneg hlt
    -- the division of whole numbers rounds down, which is the floor of the fraction
    have hfloor := Rat.floor_intCast_div_natCast a.toInt (2 ^ s.toInt.toNat)
    push_cast at hfloor
    exact ⟨w, hright, hw.trans hfloor.symm⟩
  · intro hlarge
    exact (shift_of_error hl hr (shiftCount_of_le hlarge)).2
  · intro v hv
    exact shiftRight_of_shiftLeft hl hr hv

/-- Minus one by 63 places is the least word, and one by as many is too large; minus five by a
hundred places to the right is minus one. -/
theorem shift_exact_of_edge :
    let left := OperatorTable.withBits.binary .shiftLeft
    let right := OperatorTable.withBits.binary .shiftRight
    left (.int (-1)) (.int 63) = .ok (.int Int64.minValue)
      ∧ right (.int Int64.minValue) (.int 63) = .ok (.int (-1))
      ∧ left (.bool true) (.int 63) = .error (.overflow (.operation "<<"))
      ∧ right (.int (-5)) (.int 100) = .ok (.int (-1))
      ∧ right (.int 1) (.int 4294967296) = .error (.overflow (.operation "shift"))
      ∧ left (.int 1) (.int (-1)) = .error (.value .negativeShift) := by
  intro left right
  obtain ⟨-, hleast, -, -, -, hback⟩ := shift_exact (.int (-1)) (.int 63) (-1) 63 rfl rfl
  obtain ⟨-, htruth, -⟩ := shift_exact (.bool true) (.int 63) 1 63 rfl rfl
  obtain ⟨-, -, -, hfloor, -⟩ := shift_exact (.int (-5)) (.int 100) (-5) 100 rfl rfl
  obtain ⟨-, -, -, -, hlarge, -⟩ := shift_exact (.int 1) (.int 4294967296) 1 4294967296 rfl rfl
  obtain ⟨hneg, -⟩ := shift_exact (.int 1) (.int (-1)) 1 (-1) rfl rfl
  have hleft : left (.int (-1)) (.int 63) = .ok (.int Int64.minValue) :=
    ((hleast (by decide) (by decide)).1 _).mpr ⟨Int64.minValue, rfl, by decide⟩
  have hover : left (.bool true) (.int 63) = .error (.overflow (.operation "<<")) :=
    ((htruth (by decide) (by decide)).2 _).mpr ⟨rfl, by decide⟩
  obtain ⟨w, hright, hw⟩ := hfloor (by decide) (by decide)
  have hone : w = -1 := by
    have hfive : (-5 : Int64).toInt = -5 := by decide
    have hcount : (100 : Int64).toInt.toNat = 100 := by decide
    rw [← Int64.toInt_inj, hw, hfive, hcount, Int.floor_eq_iff]
    norm_num [show (-1 : Int64).toInt = -1 from rfl]
  rw [hone] at hright
  exact ⟨hleft, hback _ hleft, hover, hright, hlarge (by decide), (hneg (by decide)).1⟩

/-- Not all shifts are made whose result fits: by `2 ^ 32` places to the right nothing of one is
left, and zero stays zero by 64 places to the left, and both are refused. -/
theorem not_shift_exact_of_count :
    let left := OperatorTable.withBits.binary .shiftLeft
    let right := OperatorTable.withBits.binary .shiftRight
    (¬ ∀ a s : Int64, 0 ≤ s.toInt → ∃ w : Int64, right (.int a) (.int s) = .ok (.int w)
      ∧ w.toInt = ⌊(a.toInt : ℚ) / 2 ^ s.toInt.toNat⌋)
    ∧ ¬ ∀ a s : Int64, 0 ≤ s.toInt → Number.Fits (a.toInt * 2 ^ s.toInt.toNat) →
      ∃ w : Int64, left (.int a) (.int s) = .ok (.int w)
        ∧ w.toInt = a.toInt * 2 ^ s.toInt.toNat := by
  intro left right
  constructor
  · intro h
    -- a count of `2 ^ 32` or more is none for the program, though the result is zero
    obtain ⟨w, hw, -⟩ := h 1 4294967296 (by decide)
    have hrefused : right (.int 1) (.int 4294967296) = .error (.overflow (.operation "shift")) :=
      rfl
    rw [hrefused] at hw
    cases hw
  · intro h
    obtain ⟨w, hw, -⟩ := h 0 64 (by decide) (by decide)
    have hrefused : left (.int 0) (.int 64) = .error (.overflow (.operation "<<")) := rfl
    rw [hrefused] at hw
    cases hw

end ConfigTree
