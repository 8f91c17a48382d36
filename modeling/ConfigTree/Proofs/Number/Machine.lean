import ConfigTree.Number.Machine
import Mathlib

/-!
# What a machine computes

A machine is faithful if it computes every untested step exactly whose result a word holds, and
every remainder that has a quotient.  The machine that goes on modulo `2 ^ 64` is faithful, and so
is one that stops at each overflow.  What is proved of a faithful machine holds of both: what the
one computes, and that the other does not stop.

Quotient and remainder are cut off by the machine and rounded down by a test of signs.  Where the
test asks for it, the divisor is neither 1 nor -1, and so there is room for one less.

## Main definitions

* `Fits` — a word holds the number.
* `Machine.Faithful` — what fits is computed.

## Main results

* `fdiv_eq_ite`, `fmod_eq_ite` — rounding down by a test of signs.
* `Machine.Faithful.floorDiv?_eq`, `Machine.Faithful.floorMod?_eq` — quotient and remainder of a
  faithful machine.
* `Machine.Faithful.fromEnd_eq_wrapping`, `Machine.Faithful.term_eq_wrapping` — positions, and
  items not too far from the start.
-/

namespace ConfigTree.Number

/-! ### Numbers that fit -/

/-- A word holds the number. -/
def Fits (n : Int) : Prop := least ≤ n ∧ n ≤ greatest

instance (n : Int) : Decidable (Fits n) := inferInstanceAs (Decidable (_ ∧ _))

theorem fits_iff {n : Int} : Fits n ↔ -9223372036854775808 ≤ n ∧ n ≤ 9223372036854775807 := Iff.rfl

@[simp] theorem fits_toInt (w : Int64) : Fits w.toInt := by
  have hleast := w.le_toInt
  have hgreatest := w.toInt_lt
  rw [fits_iff]
  omega

theorem exists_word {n : Int} (h : Fits n) : ∃ w : Int64, w.toInt = n := by
  rw [fits_iff] at h
  exact ⟨Int64.ofInt n, Int64.toInt_ofInt_of_le (by omega) (by omega)⟩

theorem word?_eq_none_of_not_fits {n : Int} (h : ¬ Fits n) : word? n = none := by
  rw [word?_eq_none_iff]
  unfold Fits at h
  omega

/-- A number that fits is the same modulo `2 ^ 64`. -/
theorem bmod_eq_of_fits {n : Int} (h : Fits n) : n.bmod (2 ^ 64) = n := by
  rw [fits_iff] at h
  exact Int.bmod_eq_of_le (by omega) (by omega)

theorem toInt_add_of_fits {a b : Int64} (h : Fits (a.toInt + b.toInt)) :
    (a + b).toInt = a.toInt + b.toInt := (Int64.toInt_add a b).trans (bmod_eq_of_fits h)

theorem toInt_sub_of_fits {a b : Int64} (h : Fits (a.toInt - b.toInt)) :
    (a - b).toInt = a.toInt - b.toInt := (Int64.toInt_sub a b).trans (bmod_eq_of_fits h)

theorem toInt_mul_of_fits {a b : Int64} (h : Fits (a.toInt * b.toInt)) :
    (a * b).toInt = a.toInt * b.toInt := (Int64.toInt_mul a b).trans (bmod_eq_of_fits h)

theorem toInt_ofNat_of_le {n : Nat} (h : (n : Int) ≤ greatest) : (Int64.ofNat n).toInt = n := by
  have hle : (n : Int) ≤ 9223372036854775807 := h
  exact Int64.toInt_ofNat_of_lt (by omega)

/-! ### Faithful machines -/

variable {m : Type → Type} [Monad m] {M : Machine m} {a b : Int64}

/-- A machine that computes what fits. -/
structure Machine.Faithful (M : Machine m) : Prop where
  /-- Sums that fit. -/
  add {a b : Int64} : Fits (a.toInt + b.toInt) → M.add a b = pure (a + b)
  /-- Differences that fit. -/
  sub {a b : Int64} : Fits (a.toInt - b.toInt) → M.sub a b = pure (a - b)
  /-- Products that fit. -/
  mul {a b : Int64} : Fits (a.toInt * b.toInt) → M.mul a b = pure (a * b)
  /-- Remainders that have a quotient. -/
  rem {a b : Int64} : ¬ Undivided a b → M.rem a b = pure (a % b)

theorem Machine.faithful_wrapping (m : Type → Type) [Monad m] : (Machine.wrapping m).Faithful where
  add _ := rfl
  sub _ := rfl
  mul _ := rfl
  rem _ := rfl

theorem wordOr_of_toInt_eq {stop : m Int64} {n : Int} {w : Int64} (h : w.toInt = n) :
    wordOr stop n = pure w := by
  rw [wordOr, word?_eq_some_iff.mpr h]

theorem wordOr_of_not_fits {stop : m Int64} {n : Int} (h : ¬ Fits n) : wordOr stop n = stop := by
  rw [wordOr, word?_eq_none_of_not_fits h]

theorem Machine.faithful_trapping (stop : m Int64) : (Machine.trapping stop).Faithful where
  add h := wordOr_of_toInt_eq (toInt_add_of_fits h)
  sub h := wordOr_of_toInt_eq (toInt_sub_of_fits h)
  mul h := wordOr_of_toInt_eq (toInt_mul_of_fits h)
  rem {a b} h := (if_neg h).trans (wordOr_of_toInt_eq (Int64.toInt_mod a b))

/-! ### Rounding down -/

/-- The quotient rounded down is the floor of the fraction. -/
theorem fdiv_eq_floor (x y : Int) : x.fdiv y = ⌊(x : ℚ) / y⌋ := by
  have hnat (z : Int) (n : Nat) : z.fdiv n = ⌊(z : ℚ) / n⌋ := by
    rw [Int.fdiv_eq_ediv_of_nonneg z (Int.natCast_nonneg n)]
    exact (Rat.floor_intCast_div_natCast z n).symm
  obtain ⟨n, rfl | rfl⟩ := y.eq_nat_or_neg
  · exact hnat x n
  -- a negative divisor: both signs are turned, which changes neither side
  · rw [← Int.neg_fdiv_neg, neg_neg, hnat]
    push_cast
    rw [div_neg, neg_div]

/-- The remainder of the quotient rounded down lies between zero and the divisor. -/
theorem fmod_bounds {x y : Int} :
    (0 < y → 0 ≤ x.fmod y ∧ x.fmod y < y) ∧ (y < 0 → y < x.fmod y ∧ x.fmod y ≤ 0) := by
  constructor
  · intro hpos
    exact ⟨Int.fmod_nonneg_of_pos x hpos, Int.fmod_lt_of_pos x hpos⟩
  · intro hneg
    have hpos : 0 < -y := by omega
    have hnonneg := Int.fmod_nonneg_of_pos (-x) hpos
    have hlt := Int.fmod_lt_of_pos (-x) hpos
    rw [Int.neg_fmod_neg] at hnonneg hlt
    omega

/-- The quotient rounded down is one less than the quotient cut off, if something was cut off and
the signs differ. -/
theorem fdiv_eq_ite {x y : Int} (hy : y ≠ 0) : x.fdiv y =
    if x.tmod y ≠ 0 ∧ ¬ (x < 0 ↔ y < 0) then x.tdiv y - 1 else x.tdiv y := by
  simp only [Int.fdiv_eq_tdiv, Int.dvd_iff_tmod_eq_zero]
  by_cases hmod : x.tmod y = 0
  · simp [hmod]
  rcases lt_or_gt_of_ne hy with hneg | hpos
  · have hsign : y.sign = -1 := Int.sign_eq_neg_one_of_neg hneg
    by_cases hx : x < 0
    · simp [hmod, hneg, hx, hsign, not_le.mpr hx, not_le.mpr hneg]
    · simp [hmod, hneg, hx, not_lt.mp hx, not_le.mpr hneg]
  · have hsign : y.sign = 1 := Int.sign_eq_one_of_pos hpos
    by_cases hx : x < 0
    · simp [hmod, hx, hsign, hpos.le, not_le.mpr hx]
    · simp [hmod, hx, not_lt.mp hx, hpos.le]

/-- A remainder cut off that is not zero has the sign of the dividend. -/
theorem tmod_neg_iff {x y : Int} (h : x.tmod y ≠ 0) : x.tmod y < 0 ↔ x < 0 := by
  by_cases hx : x < 0
  · have hneg : 0 ≤ (-x).tmod y := Int.tmod_nonneg y (by omega)
    rw [Int.neg_tmod] at hneg
    omega
  · have hnonneg : 0 ≤ x.tmod y := Int.tmod_nonneg y (by omega)
    omega

/-- The remainder of the quotient rounded down is the one cut off and the divisor, if the two are
of different signs. -/
theorem fmod_eq_ite {x y : Int} (hy : y ≠ 0) : x.fmod y =
    if x.tmod y ≠ 0 ∧ ¬ (x.tmod y < 0 ↔ y < 0) then x.tmod y + y else x.tmod y := by
  -- the remainders differ by the divisor as often as the quotients differ by one
  have hfmod : x.fmod y = x.tmod y + y * (x.tdiv y - x.fdiv y) := by
    rw [Int.fmod_def, Int.tmod_def]
    ring
  rw [hfmod, fdiv_eq_ite hy]
  by_cases hmod : x.tmod y = 0
  · simp [hmod]
  · simp only [tmod_neg_iff hmod]
    split <;> ring

/-! ### Quotient and remainder of words -/

/-- The test of signs of a word that stands for a remainder. -/
theorem differs_iff {r u v : Int64} :
    (r != 0 && (u < 0) != (v < 0)) = true
      ↔ r.toInt ≠ 0 ∧ ¬ (u.toInt < 0 ↔ v.toInt < 0) := by
  have hzero : r = 0 ↔ r.toInt = 0 := by rw [← Int64.toInt_inj, Int64.toInt_zero]
  have hneg (w : Int64) : w < 0 ↔ w.toInt < 0 := by rw [Int64.lt_iff_toInt_lt, Int64.toInt_zero]
  simp only [Bool.and_eq_true, bne_iff_ne, ne_eq, hzero, decide_eq_decide, hneg]

/-- The quotient that the machine cuts off. -/
theorem toInt_div (h : ¬ Undivided a b) : (a / b).toInt = a.toInt.tdiv b.toInt := by
  by_cases ha : a = Int64.minValue
  · exact Int64.toInt_div_of_ne_right a b fun hb => h (.inr ⟨ha, hb⟩)
  · exact Int64.toInt_div_of_ne_left a b ha

theorem toInt_ne_zero (hb : b ≠ 0) : b.toInt ≠ 0 := by
  intro h
  exact hb (Int64.toInt_inj.mp (h.trans Int64.toInt_zero.symm))

/-- Only the quotient of the least word and -1 fits in no word. -/
theorem eq_of_undivided (h : Undivided a b) (hb : b ≠ 0) : a = Int64.minValue ∧ b = -1 :=
  h.resolve_left hb

/-- Where something is cut off, one less than the quotient fits. -/
theorem fits_tdiv_sub_one (h : a.toInt.tmod b.toInt ≠ 0) : Fits (a.toInt.tdiv b.toInt - 1) := by
  have hquot : (a.toInt.tdiv b.toInt).natAbs ≤ a.toInt.natAbs / 2 := by
    have hdiv : (a.toInt.tdiv b.toInt).natAbs = a.toInt.natAbs / b.toInt.natAbs :=
      Int.natAbs_tdiv a.toInt b.toInt
    rw [hdiv]
    by_cases htwo : 2 ≤ b.toInt.natAbs
    · exact Nat.div_le_div_left htwo (by decide)
    · -- neither 1 nor -1 leaves a remainder
      have hsmall : b.toInt = 0 ∨ b.toInt = 1 ∨ b.toInt = -1 := by omega
      rcases hsmall with hb | hb | hb
      · simp [hb]
      · simp [hb] at h
      · simp [hb] at h
  have ha := fits_toInt a
  rw [fits_iff] at ha ⊢
  omega

namespace Machine.Faithful

variable [LawfulMonad m]

/-- **A faithful machine gives the quotient rounded down**, or nothing if no word holds it. -/
theorem floorDiv?_eq (h : M.Faithful) (hb : b ≠ 0) :
    M.floorDiv? a b = pure (word? (a.toInt.fdiv b.toInt)) := by
  rw [Machine.floorDiv?, div?]
  by_cases hundivided : Undivided a b
  · obtain ⟨rfl, rfl⟩ := eq_of_undivided hundivided hb
    rw [if_pos hundivided]
    rfl
  rw [if_neg hundivided, fdiv_eq_ite (toInt_ne_zero hb)]
  simp only [h.rem hundivided, pure_bind, differs_iff, Int64.toInt_mod]
  split
  · next hdown =>
    have hfits : Fits ((a / b).toInt - (1 : Int64).toInt) := by
      rw [toInt_div hundivided]
      exact fits_tdiv_sub_one hdown.1
    have hword : word? (a.toInt.tdiv b.toInt - 1) = some (a / b - 1) := by
      rw [word?_eq_some_iff, toInt_sub_of_fits hfits, toInt_div hundivided]
      rfl
    rw [h.sub hfits, pure_bind, hword]
  · rw [word?_eq_some_iff.mpr (toInt_div hundivided)]

/-- **A faithful machine gives the remainder of the quotient rounded down**, where it has a
quotient. -/
theorem floorMod?_eq (h : M.Faithful) (hb : b ≠ 0) : M.floorMod? a b =
    pure (if Undivided a b then none else word? (a.toInt.fmod b.toInt)) := by
  rw [Machine.floorMod?, rem?]
  by_cases hundivided : Undivided a b
  · rw [if_pos hundivided, if_pos hundivided]
  have hmod : (a % b).toInt = a.toInt.tmod b.toInt := Int64.toInt_mod a b
  rw [if_neg hundivided, if_neg hundivided, fmod_eq_ite (toInt_ne_zero hb)]
  simp only [differs_iff, hmod]
  split
  · next hdown =>
    -- of different signs, the two do not add up
    have hfits : Fits ((a % b).toInt + b.toInt) := by
      have hr := fits_toInt (a % b)
      have hbfits := fits_toInt b
      obtain ⟨-, hsigns⟩ := hdown
      rw [← hmod] at hsigns
      rw [fits_iff] at hr hbfits ⊢
      omega
    have hword : word? (a.toInt.tmod b.toInt + b.toInt) = some (a % b + b) := by
      rw [word?_eq_some_iff, toInt_add_of_fits hfits, hmod]
    rw [h.add hfits, pure_bind, hword]
  · rw [word?_eq_some_iff.mpr hmod]

/-! ### What a faithful machine computes as the one that goes on does -/

theorem floorDiv?_eq_wrapping (h : M.Faithful) (a b : Int64) :
    M.floorDiv? a b = pure ((Machine.wrapping Id).floorDiv? a b).run := by
  -- by zero no machine divides, so none of them can stop
  by_cases hb : b = 0
  · have hundivided : Undivided a b := .inl hb
    rw [Machine.floorDiv?, Machine.floorDiv?, div?, if_pos hundivided]
    rfl
  · rw [h.floorDiv?_eq hb, (faithful_wrapping Id).floorDiv?_eq hb]
    rfl

theorem floorMod?_eq_wrapping (h : M.Faithful) (a b : Int64) :
    M.floorMod? a b = pure ((Machine.wrapping Id).floorMod? a b).run := by
  by_cases hb : b = 0
  · have hundivided : Undivided a b := .inl hb
    rw [Machine.floorMod?, Machine.floorMod?, rem?, if_pos hundivided]
    rfl
  · rw [h.floorMod?_eq hb, (faithful_wrapping Id).floorMod?_eq hb]
    rfl

omit [LawfulMonad m] in
/-- A length that is a word brings no negative index above the words. -/
theorem fromEnd_eq_wrapping (h : M.Faithful) (i : Int64) {length : Nat}
    (hlength : (length : Int) ≤ greatest) :
    M.fromEnd i length = pure ((Machine.wrapping Id).fromEnd i length).run := by
  rw [Machine.fromEnd, Machine.fromEnd]
  split
  · next hneg =>
    -- the index is negative and the length is not, so the sum lies between them
    have hfits : Fits (i.toInt + (Int64.ofNat length).toInt) := by
      have hi := fits_toInt i
      rw [Int64.lt_iff_toInt_lt, Int64.toInt_zero] at hneg
      rw [toInt_ofNat_of_le hlength]
      rw [fits_iff] at hi ⊢
      have hle : (length : Int) ≤ 9223372036854775807 := hlength
      omega
    rw [h.add hfits]
    rfl
  · rfl

/-- An item that fits, and whose distance from the start does. -/
theorem term_eq_wrapping (h : M.Faithful) (a s : Int64) {i : Nat} (hi : (i : Int) ≤ greatest)
    (hproduct : Fits (i * s.toInt)) (hsum : Fits (a.toInt + i * s.toInt)) :
    M.term a s i = pure ((Machine.wrapping Id).term a s i).run := by
  rw [← toInt_ofNat_of_le hi] at hproduct hsum
  rw [← toInt_mul_of_fits hproduct] at hsum
  rw [Machine.term, h.mul hproduct, pure_bind, h.add hsum]
  rfl

end Machine.Faithful

/-- The machine that stops does so at an item whose distance from the start does not fit. -/
theorem Machine.trapping_term_of_not_fits (stop : m Int64) (a s : Int64) {i : Nat}
    (hi : (i : Int) ≤ greatest) (hproduct : ¬ Fits (i * s.toInt)) :
    (Machine.trapping stop).term a s i = stop >>= (Machine.trapping stop).add a := by
  rw [← toInt_ofNat_of_le hi] at hproduct
  have hstop : (Machine.trapping stop).mul (Int64.ofNat i) s = stop := wordOr_of_not_fits hproduct
  rw [Machine.term, hstop]

end ConfigTree.Number
