import ConfigTree.Proofs.Eval.Whole
import ConfigTree.Proofs.Number.Machine

/-!
# Division of whole numbers

The quotient of whole numbers, truth values among them, is the floor of the fraction, or an
overflow if no word holds that.  The remainder is what the quotient leaves; it lies between zero
and the divisor, and quotient and remainder give the dividend back.

The remainder is refused along with the quotient: the least word has none by -1, though zero would
fit.

## Main results

* `Operation.floorDiv_eq_fit`, `Operation.mod_eq_fit` — quotient and remainder in numbers.
* `division_floor` — the quotient is the floor, and the remainder is what it leaves.
* `not_mod_floor_of_least` — not all remainders that fit are given.
-/

namespace ConfigTree

namespace Operation

variable {l r : Value} {a b : Int64}

theorem floorDiv_zero (hl : l.toInt64? = some a) (hr : r.toInt64? = some 0) :
    floorDiv l r = .error (.zeroDivision .whole) := by
  rw [floorDiv, Value.numeric?_of_toInt64? hl, Value.numeric?_of_toInt64? hr]
  rfl

theorem mod_zero (hl : l.toInt64? = some a) (hr : r.toInt64? = some 0) :
    mod l r = .error (.zeroDivision .whole) := by
  rw [mod, Value.numeric?_of_toInt64? hl, Value.numeric?_of_toInt64? hr]
  rfl

/-- The quotient is the word of the quotient rounded down. -/
theorem floorDiv_eq_fit (hl : l.toInt64? = some a) (hr : r.toInt64? = some b) (hb : b ≠ 0) :
    floorDiv l r = fit "//" (a.toInt.fdiv b.toInt) := by
  rw [floorDiv, Value.numeric?_of_toInt64? hl, Value.numeric?_of_toInt64? hr]
  dsimp only
  rw [if_neg hb, (Number.Machine.faithful_wrapping Id).floorDiv?_eq hb]
  rfl

theorem mod_of_undivided (hl : l.toInt64? = some a) (hr : r.toInt64? = some b) (hb : b ≠ 0)
    (h : Number.Undivided a b) : mod l r = .error (.overflow (.operation "%")) := by
  rw [mod, Value.numeric?_of_toInt64? hl, Value.numeric?_of_toInt64? hr]
  dsimp only
  rw [if_neg hb, (Number.Machine.faithful_wrapping Id).floorMod?_eq hb, if_pos h]
  rfl

/-- The remainder is the word of what the quotient rounded down leaves. -/
theorem mod_eq_fit (hl : l.toInt64? = some a) (hr : r.toInt64? = some b) (hb : b ≠ 0)
    (h : ¬ Number.Undivided a b) : mod l r = fit "%" (a.toInt.fmod b.toInt) := by
  rw [mod, Value.numeric?_of_toInt64? hl, Value.numeric?_of_toInt64? hr]
  dsimp only
  rw [if_neg hb, (Number.Machine.faithful_wrapping Id).floorMod?_eq hb, if_neg h]
  rfl

/-- The remainder always fits, for it is no farther from zero than the divisor. -/
theorem fits_fmod (hb : b ≠ 0) : Number.Fits (a.toInt.fmod b.toInt) := by
  obtain ⟨hpos, hneg⟩ := Number.fmod_bounds (x := a.toInt) (y := b.toInt)
  have hzero := Number.toInt_ne_zero hb
  have hfits := Number.fits_toInt b
  rw [Number.fits_iff] at hfits ⊢
  -- it lies between zero and the divisor, on either side
  rcases lt_or_gt_of_ne hzero with hlt | hgt
  · have := hneg hlt
    omega
  · have := hpos hgt
    omega

/-- Where there is a quotient, there is a remainder. -/
theorem exists_mod (hl : l.toInt64? = some a) (hr : r.toInt64? = some b) (hb : b ≠ 0)
    (h : ¬ Number.Undivided a b) :
    ∃ w : Int64, mod l r = .ok (.int w) ∧ w.toInt = a.toInt.fmod b.toInt := by
  obtain ⟨w, hw⟩ := Number.exists_word (fits_fmod (a := a) hb)
  refine ⟨w, ?_, hw⟩
  rw [mod_eq_fit hl hr hb h]
  exact ((exact_fit "%" _).1 _).mpr ⟨w, rfl, hw⟩

/-- A quotient that is given is one that the machine has. -/
theorem divided_of_floorDiv (hl : l.toInt64? = some a) (hr : r.toInt64? = some b) (hb : b ≠ 0)
    {v : Value} (h : floorDiv l r = .ok v) : ¬ Number.Undivided a b := by
  intro hundivided
  obtain ⟨rfl, rfl⟩ := Number.eq_of_undivided hundivided hb
  -- the one quotient that the machine lacks is `2 ^ 63`, which no word holds
  rw [floorDiv_eq_fit hl hr hb] at h
  cases h

/-- Quotient and remainder give the dividend back. -/
theorem exists_mod_of_floorDiv (hl : l.toInt64? = some a) (hr : r.toInt64? = some b)
    (hb : b ≠ 0) {v : Value} (h : floorDiv l r = .ok v) :
    ∃ q w : Int64, v = .int q ∧ mod l r = .ok (.int w)
      ∧ q.toInt * b.toInt + w.toInt = a.toInt := by
  obtain ⟨w, hmod, hw⟩ := exists_mod hl hr hb (divided_of_floorDiv hl hr hb h)
  rw [floorDiv_eq_fit hl hr hb] at h
  obtain ⟨q, rfl, hq⟩ := ((exact_fit "//" _).1 v).mp h
  refine ⟨q, w, rfl, hmod, ?_⟩
  rw [hq, hw]
  exact Int.fdiv_mul_add_fmod a.toInt b.toInt

end Operation

open Operation

/-- **The quotient is the floor, and the remainder is what it leaves.**  Division by zero is told
as such.  The quotient is an overflow where no word holds it, which is so for the least word by -1;
the remainder is refused with it there, and given everywhere else. -/
theorem division_floor (l r : Value) (a b : Int64) (hl : l.toInt64? = some a)
    (hr : r.toInt64? = some b) :
    (b = 0 → floorDiv l r = .error (.zeroDivision .whole)
      ∧ mod l r = .error (.zeroDivision .whole))
    ∧ (b ≠ 0 → Exact "//" ⌊(a.toInt : ℚ) / b.toInt⌋ (floorDiv l r)
      ∧ (¬ (a = Int64.minValue ∧ b = -1) → ∃ w : Int64, mod l r = .ok (.int w)
        ∧ w.toInt = a.toInt - b.toInt * ⌊(a.toInt : ℚ) / b.toInt⌋
        ∧ (0 < b.toInt → 0 ≤ w.toInt ∧ w.toInt < b.toInt)
        ∧ (b.toInt < 0 → b.toInt < w.toInt ∧ w.toInt ≤ 0))
      ∧ (a = Int64.minValue ∧ b = -1 → mod l r = .error (.overflow (.operation "%")))
      ∧ ∀ v, floorDiv l r = .ok v → ∃ q w : Int64, v = .int q ∧ mod l r = .ok (.int w)
        ∧ q.toInt * b.toInt + w.toInt = a.toInt) := by
  constructor
  · rintro rfl
    exact ⟨floorDiv_zero hl hr, mod_zero hl hr⟩
  intro hb
  -- from here on the floor is the quotient rounded down
  rw [← Number.fdiv_eq_floor]
  refine ⟨?_, ?_, ?_, fun v hv => exists_mod_of_floorDiv hl hr hb hv⟩
  · rw [floorDiv_eq_fit hl hr hb]
    exact exact_fit "//" _
  · intro hleast
    have hdivided : ¬ Number.Undivided a b := fun h => hleast (Number.eq_of_undivided h hb)
    obtain ⟨w, hmod, hw⟩ := exists_mod hl hr hb hdivided
    have hbounds := Number.fmod_bounds (x := a.toInt) (y := b.toInt)
    rw [← hw] at hbounds
    exact ⟨w, hmod, hw.trans (Int.fmod_def a.toInt b.toInt), hbounds⟩
  · intro hleast
    exact mod_of_undivided hl hr hb (.inr hleast)

/-- Seven by minus two is minus four, with minus one left; the least word by minus one is neither
divided nor does it leave a remainder; nothing is divided by zero. -/
theorem division_floor_of_signs :
    floorDiv (.int 7) (.int (-2)) = .ok (.int (-4)) ∧ mod (.int 7) (.int (-2)) = .ok (.int (-1))
      ∧ floorDiv (.int Int64.minValue) (.int (-1)) = .error (.overflow (.operation "//"))
      ∧ mod (.int Int64.minValue) (.int (-1)) = .error (.overflow (.operation "%"))
      ∧ mod (.bool true) (.bool false) = .error (.zeroDivision .whole) := by
  obtain ⟨-, hsigns⟩ := division_floor (.int 7) (.int (-2)) 7 (-2) rfl rfl
  obtain ⟨hquotient, hremainder, -, -⟩ := hsigns (by decide)
  obtain ⟨-, hleast⟩ := division_floor (.int Int64.minValue) (.int (-1)) Int64.minValue (-1) rfl rfl
  obtain ⟨hoverflow, -, hrefused, -⟩ := hleast (by decide)
  obtain ⟨hzero, -⟩ := division_floor (.bool true) (.bool false) 1 0 rfl rfl
  -- fractions cannot be decided, quotients rounded down can
  have hfour : ⌊(((7 : Int64).toInt : Int) : ℚ) / ((-2 : Int64).toInt : Int)⌋ = -4 := by
    rw [← Number.fdiv_eq_floor]
    decide
  have hgreat : ⌊((Int64.minValue.toInt : Int) : ℚ) / ((-1 : Int64).toInt : Int)⌋ = 2 ^ 63 := by
    rw [← Number.fdiv_eq_floor]
    decide
  rw [hfour] at hquotient hremainder
  rw [hgreat] at hoverflow
  refine ⟨(hquotient.1 _).mpr ⟨-4, rfl, by decide⟩, ?_, (hoverflow.2 _).mpr ⟨rfl, by decide⟩,
    hrefused (by decide), (hzero rfl).2⟩
  obtain ⟨w, hmod, hw, -⟩ := hremainder (by decide)
  have hone : w = -1 := Int64.toInt_inj.mp (hw.trans (by decide))
  rw [hmod, hone]

/-- The remainder is not always given: the least word by -1 leaves zero, which fits, and it is
refused. -/
theorem not_mod_floor_of_least :
    ¬ ∀ a b : Int64, b ≠ 0 → ∃ w : Int64, mod (.int a) (.int b) = .ok (.int w)
      ∧ w.toInt = a.toInt - b.toInt * ⌊(a.toInt : ℚ) / b.toInt⌋ := by
  intro h
  obtain ⟨w, hw, -⟩ := h Int64.minValue (-1) (by decide)
  have hrefused : mod (.int Int64.minValue) (.int (-1)) = .error (.overflow (.operation "%")) := by
    rfl
  rw [hrefused] at hw
  cases hw

end ConfigTree
