import ConfigTree.Eval.Range
import ConfigTree.Proofs.Number.Machine

/-!
# Ranges of whole numbers

A range of whole numbers holds what lies strictly before the stop in the direction of the step.
How many these are is a quotient rounded up, taken of exact numbers.  They are computed modulo
`2 ^ 64`, and since each of them lies between the start and the stop, it is the exact number,
though the product on the way to it need not fit.

## Main definitions

* `Range.Before` — one number lies strictly before another in the direction of a step.

## Main results

* `Range.lt_stepCount_iff` — what is counted lies before the stop.
* `Range.fits_of_before` — what lies before the stop fits.
* `arange_exact` — the range holds exactly what lies before the stop.
-/

namespace ConfigTree

namespace Range

open Number (Fits Machine)

/-- The number lies strictly before another in the direction of a step. -/
def Before (s x y : Int) : Prop := if 0 < s then x < y else y < x

theorem before_of_pos {s x y : Int} (hs : 0 < s) : Before s x y ↔ x < y := by
  rw [Before, if_pos hs]

theorem before_of_neg {s x y : Int} (hs : s < 0) : Before s x y ↔ y < x := by
  rw [Before, if_neg (by omega)]

theorem Before.ne {s x y : Int} (h : Before s x y) : x ≠ y := by
  unfold Before at h
  split at h <;> omega

/-! ### How many there are -/

/-- A quotient rounded up counts the multiples below the dividend. -/
theorem lt_div_up_iff {x k i : Nat} (hk : 0 < k) : i < (x + k - 1) / k ↔ i * k < x := by
  rw [← Nat.succ_le_iff, Nat.le_div_iff_mul_le hk, Nat.succ_mul]
  omega

/-- **What is counted lies before the stop.** -/
theorem lt_stepCount_iff {a b s : Int} (hs : s ≠ 0) {i : Nat} :
    i < stepCount a b s ↔ Before s (a + i * s) b := by
  -- without a span, nothing is below zero
  have hcount (span : Int) :
      i < (if span ≤ 0 then 0 else (span.toNat + s.natAbs - 1) / s.natAbs)
        ↔ (i * s.natAbs : Int) < span := by
    split
    · next hspan =>
      have hnonneg : (0 : Int) ≤ i * s.natAbs := by positivity
      omega
    · next hspan =>
      rw [lt_div_up_iff (Int.natAbs_pos.mpr hs), ← Int.ofNat_lt,
        Int.toNat_of_nonneg (not_le.mp hspan).le, Int.natCast_mul]
  -- up or down; the span is measured in the direction of the step
  rcases lt_or_gt_of_ne hs with hneg | hpos
  · have habs : (s.natAbs : Int) = -s := Int.ofNat_natAbs_of_nonpos hneg.le
    rw [stepCount, if_neg (not_lt.mpr hneg.le), hcount, before_of_neg hneg, habs, mul_neg]
    omega
  · have habs : (s.natAbs : Int) = s := Int.natAbs_of_nonneg hpos.le
    rw [stepCount, if_pos hpos, hcount, before_of_pos hpos, habs]
    omega

theorem setOf_before {a b s : Int} (hs : s ≠ 0) :
    {i : ℕ | Before s (a + i * s) b} = Set.Iio (stepCount a b s) := by
  ext i
  exact (lt_stepCount_iff hs).symm

/-- As many are counted as lie before the stop. -/
theorem ncard_before {a b s : Int} (hs : s ≠ 0) :
    {i : ℕ | Before s (a + i * s) b}.ncard = stepCount a b s := by
  rw [setOf_before hs, Set.ncard_Iio_nat]

/-! ### What they are -/

variable {a b s : Int64} {i : Nat}

/-- **What lies before the stop fits**, for it lies between the start and the stop. -/
theorem fits_of_before (h : Before s.toInt (a.toInt + i * s.toInt) b.toInt) :
    Fits (a.toInt + i * s.toInt) := by
  have ha := Number.fits_toInt a
  have hb := Number.fits_toInt b
  rw [Number.fits_iff] at ha hb ⊢
  unfold Before at h
  split at h
  · next hpos =>
    have hnonneg : 0 ≤ i * s.toInt := by positivity
    omega
  · next hpos =>
    have hnonpos : i * s.toInt ≤ 0 :=
      mul_nonpos_of_nonneg_of_nonpos (Int.natCast_nonneg i) (not_lt.mp hpos)
    omega

/-- What is computed modulo `2 ^ 64` is the exact number, if that fits. -/
theorem toInt_term_of_fits (h : Fits (a.toInt + i * s.toInt)) :
    (a + Int64.ofNat i * s).toInt = a.toInt + i * s.toInt := by
  -- to take the number modulo `2 ^ 64` may wait until all is added up
  have hterm : a + Int64.ofNat i * s = Int64.ofInt (a.toInt + i * s.toInt) := by
    rw [Int64.ofInt_add, Int64.ofInt_mul, Int64.ofInt_toInt, Int64.ofInt_toInt,
      Int64.ofInt_eq_ofNat]
  rw [Number.fits_iff] at h
  rw [hterm, Int64.toInt_ofInt_of_le (by omega) (by omega)]

/-- The words of a range. -/
def words (a s : Int64) (n : Nat) : List Int64 :=
  (List.range n).map fun i => a + Int64.ofNat i * s

@[simp] theorem length_words (a s : Int64) (n : Nat) : (words a s n).length = n := by
  rw [words, List.length_map, List.length_range]

/-- The machine that goes on gives all words of a range. -/
theorem stepped_wrapping (a s : Int64) (n : Nat) :
    stepped (.wrapping Evaluated) a s n = .ok ((words a s n).map .int) := by
  rw [stepped, words, List.map_map]
  exact List.mapM_pure

/-- The words of a range, as many as are counted, are the exact numbers. -/
theorem map_toInt_words (hs : s.toInt ≠ 0) {n : Nat}
    (hn : n ≤ stepCount a.toInt b.toInt s.toInt) :
    (words a s n).map Int64.toInt = (List.range n).map fun i : ℕ => a.toInt + i * s.toInt := by
  rw [words, List.map_map]
  refine List.map_congr_left fun i hi => ?_
  have hlt : i < stepCount a.toInt b.toInt s.toInt := (List.mem_range.mp hi).trans_le hn
  exact toInt_term_of_fits (fits_of_before ((lt_stepCount_iff hs).mp hlt))

/-- Exact numbers, one step after the other, are strictly monotone. -/
theorem pairwise_before (a : Int) {s : Int} (hs : s ≠ 0) (n : Nat) :
    ((List.range n).map fun i : ℕ => a + i * s).Pairwise (Before s) := by
  rw [List.pairwise_map]
  refine List.pairwise_lt_range.imp fun {i j} hij => ?_
  have hlt : (i : Int) < j := Int.ofNat_lt.mpr hij
  rcases lt_or_gt_of_ne hs with hneg | hpos
  · rw [before_of_neg hneg]
    have := mul_lt_mul_of_neg_right hlt hneg
    omega
  · rw [before_of_pos hpos]
    have := mul_lt_mul_of_pos_right hlt hpos
    omega

/-- Each word of a range lies before the stop. -/
theorem before_of_mem_words (hs : s.toInt ≠ 0) {w : Int64}
    (hw : w ∈ words a s (stepCount a.toInt b.toInt s.toInt)) :
    Before s.toInt w.toInt b.toInt := by
  -- as exact numbers the words are known by their positions
  have hmem := List.mem_map_of_mem (f := Int64.toInt) hw
  rw [map_toInt_words hs le_rfl] at hmem
  obtain ⟨i, hi, hiw⟩ := List.mem_map.mp hmem
  rw [← hiw]
  exact (lt_stepCount_iff hs).mp (List.mem_range.mp hi)

/-- The words of a range are strictly monotone. -/
theorem pairwise_words (hs : s.toInt ≠ 0) :
    (words a s (stepCount a.toInt b.toInt s.toInt)).Pairwise
      fun v w => Before s.toInt v.toInt w.toInt := by
  have hpairwise := pairwise_before a.toInt hs (stepCount a.toInt b.toInt s.toInt)
  rw [← map_toInt_words hs le_rfl, List.pairwise_map] at hpairwise
  exact hpairwise

/-- A range within the limit, on any machine. -/
theorem wholeRange_of_le (M : Machine Evaluated) (hs : s ≠ 0)
    (h : stepCount a.toInt b.toInt s.toInt ≤ maxLength) :
    wholeRange M a b s = stepped M a s (stepCount a.toInt b.toInt s.toInt) := by
  have hcheck : checkCount (stepCount a.toInt b.toInt s.toInt) = .ok () := by
    rw [checkCount, if_neg (not_lt.mpr h)]
  rw [wholeRange, if_neg hs]
  dsimp only
  rw [hcheck]
  rfl

/-- A range beyond the limit, on any machine. -/
theorem wholeRange_of_lt (M : Machine Evaluated) (hs : s ≠ 0)
    (h : maxLength < stepCount a.toInt b.toInt s.toInt) :
    wholeRange M a b s = .error (.limit (.count (stepCount a.toInt b.toInt s.toInt))) := by
  have hcheck : checkCount (stepCount a.toInt b.toInt s.toInt)
      = .error (.limit (.count (stepCount a.toInt b.toInt s.toInt))) := by
    rw [checkCount, if_pos h]
  rw [wholeRange, if_neg hs]
  dsimp only
  rw [hcheck]
  rfl

theorem wholeRange_zero (M : Machine Evaluated) (a b : Int64) :
    wholeRange M a b 0 = .error (.value .zeroStep) := if_pos rfl

/-- A range that is given holds as many words as are counted, and they are within the limit. -/
theorem of_wholeRange {items : List Value}
    (h : wholeRange (.wrapping Evaluated) a b s = .ok items) :
    s ≠ 0 ∧ items = (words a s (stepCount a.toInt b.toInt s.toInt)).map .int
      ∧ stepCount a.toInt b.toInt s.toInt ≤ maxLength := by
  have hs : s ≠ 0 := by
    rintro rfl
    cases h
  have hlimit : stepCount a.toInt b.toInt s.toInt ≤ maxLength := by
    by_contra hover
    rw [wholeRange_of_lt _ hs (not_le.mp hover)] at h
    cases h
  rw [wholeRange_of_le _ hs hlimit, stepped_wrapping, Except.ok.injEq] at h
  exact ⟨hs, h.symm, hlimit⟩

end Range

open Range

open Number (Machine)

/-- **A range of whole numbers is exact.**  It holds, in order, the numbers that lie strictly
before the stop in the direction of the step, as many as there are, or is refused if these are
more than the limit.  They are computed modulo `2 ^ 64`, and none of them is another one than in
arithmetic without bounds.  They are strictly monotone, the stop is not among them, and one step
more would reach or pass it. -/
theorem arange_exact (a b s : Int64) (hs : s ≠ 0) :
    let before := {i : ℕ | Before s.toInt (a.toInt + i * s.toInt) b.toInt}
    before.Finite
    ∧ (maxLength < before.ncard →
        arange (.wrapping Evaluated) (.int a) (.int b) (.int s)
          = .error (.limit (.count before.ncard)))
    ∧ (before.ncard ≤ maxLength → ∃ ws : List Int64,
        arange (.wrapping Evaluated) (.int a) (.int b) (.int s) = .ok (ws.map .int)
        ∧ ws = (List.range before.ncard).map (fun i => a + Int64.ofNat i * s)
        ∧ ws.map Int64.toInt
          = (List.range before.ncard).map (fun i : ℕ => a.toInt + i * s.toInt)
        ∧ ws.Pairwise (fun v w => Before s.toInt v.toInt w.toInt)
        ∧ (∀ w ∈ ws, Before s.toInt w.toInt b.toInt)
        ∧ b ∉ ws
        ∧ ¬ Before s.toInt (a.toInt + before.ncard * s.toInt) b.toInt) := by
  intro before
  have hstep : s.toInt ≠ 0 := Number.toInt_ne_zero hs
  have hcard : before.ncard = stepCount a.toInt b.toInt s.toInt := ncard_before hstep
  rw [hcard]
  refine ⟨?_, fun hlimit => wholeRange_of_lt _ hs hlimit, fun hlimit => ?_⟩
  · show before.Finite
    rw [show before = Set.Iio (stepCount a.toInt b.toInt s.toInt) from setOf_before hstep]
    exact Set.finite_Iio _
  have hpassed :
      ¬ Before s.toInt (a.toInt + stepCount a.toInt b.toInt s.toInt * s.toInt) b.toInt := by
    rw [← lt_stepCount_iff hstep]
    exact lt_irrefl _
  have hrange := (wholeRange_of_le _ hs hlimit).trans (stepped_wrapping a s _)
  exact ⟨words a s (stepCount a.toInt b.toInt s.toInt), hrange, rfl,
    map_toInt_words hstep le_rfl, pairwise_words hstep, fun w hw => before_of_mem_words hstep hw,
    fun hmem => (before_of_mem_words hstep hmem).ne rfl, hpassed⟩

/-- From the least word to the greatest in steps of `2 ^ 62` there are four, though three steps
are already more than any word; down from the greatest by the least there are two. -/
theorem arange_exact_of_extremes :
    let M := Machine.wrapping Evaluated
    arange M (.int Int64.minValue) (.int Int64.maxValue) (.int 4611686018427387904)
        = .ok [.int (-9223372036854775808), .int (-4611686018427387904), .int 0,
          .int 4611686018427387904]
      ∧ arange M (.int Int64.maxValue) (.int (-2)) (.int Int64.minValue)
        = .ok [.int 9223372036854775807, .int (-1)] := by
  intro M
  obtain ⟨-, -, hup⟩ := arange_exact Int64.minValue Int64.maxValue 4611686018427387904 (by decide)
  obtain ⟨-, -, hdown⟩ := arange_exact Int64.maxValue (-2) Int64.minValue (by decide)
  -- the sets cannot be counted by evaluation, but the steps can
  rw [ncard_before (by decide)] at hup hdown
  have hfour : stepCount Int64.minValue.toInt Int64.maxValue.toInt
      (4611686018427387904 : Int64).toInt = 4 := by decide
  have htwo : stepCount Int64.maxValue.toInt (-2 : Int64).toInt Int64.minValue.toInt = 2 := by
    decide
  rw [hfour] at hup
  rw [htwo] at hdown
  obtain ⟨ws, hws, rfl, -⟩ := hup (by decide)
  obtain ⟨vs, hvs, rfl, -⟩ := hdown (by decide)
  rw [hws, hvs]
  exact ⟨rfl, rfl⟩

end ConfigTree
