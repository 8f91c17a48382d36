import ConfigTree.Eval.Expression
import ConfigTree.Proofs.Eval.Range

/-!
# Steps that nothing tests

Not every step of a computation with words is tested for an overflow.  A machine that stops at each
overflow shows which of them need no test: it gives quotients, remainders and positions as the
machine that goes on modulo `2 ^ 64` does.

A range is the exception.  All its items fit, but an item is computed from its distance to the
start, and with the start below zero and the stop above it, that distance may be more than any
word.  The items are right modulo `2 ^ 64`, but the machine that stops gives none of them.

## Main results

* `Range.fits_mul_of_le` — of the distances the last is the one to look at.
* `Range.halting_term_iff` — when the machine that stops gives an item.
* `Range.stepped_halting` — when it gives a whole range, and what becomes of it otherwise.
* `steps_fit` — which steps fit.
* `not_steps_fit_of_distance` — not all of them.
-/

namespace ConfigTree

open Number (Fits Machine)

namespace Range

variable {a b s : Int64} {i n : Nat}

/-- A multiple fits if a greater one does. -/
theorem fits_mul_of_le {x : Int} (h : i ≤ n) (hn : Fits (n * x)) : Fits (i * x) := by
  have hle : (i : Int) ≤ n := Int.ofNat_le.mpr h
  have hnonneg : (0 : Int) ≤ i := Int.natCast_nonneg i
  rw [Number.fits_iff] at hn ⊢
  -- between zero and the greater multiple, on either side
  rcases le_total 0 x with hx | hx
  · have := mul_le_mul_of_nonneg_right hle hx
    have := mul_nonneg hnonneg hx
    omega
  · have := mul_le_mul_of_nonpos_right hle hx
    have := mul_nonpos_of_nonneg_of_nonpos hnonneg hx
    omega

/-- The last of the multiples is the one to look at. -/
theorem forall_fits_mul_iff {x : Int} :
    (∀ i < n, Fits (i * x)) ↔ Fits ((n - 1 : ℕ) * x) := by
  constructor
  · intro h
    -- without items there is nothing to show, and the distance of the last one is zero
    cases n with
    | zero => exact fits_mul_of_le (Nat.zero_le 0) (by simp [Number.fits_iff])
    | succ n => exact h n (Nat.lt_succ_self n)
  · intro h i hi
    exact fits_mul_of_le (Nat.le_sub_one_of_lt hi) h

/-- A number below one within the limit is a word. -/
theorem le_greatest_of_lt (hi : i < n) (hn : n ≤ maxLength) : (i : Int) ≤ Number.greatest := by
  have hlimit : i < 100000 := hi.trans_le hn
  show (i : Int) ≤ 9223372036854775807
  omega

theorem faithful_halting : halting.Faithful :=
  Machine.faithful_trapping (m := Evaluated) (.error .halted)

/-- The machine that stops does so at an item whose distance from the start does not fit. -/
theorem halting_term_of_not_fits (a s : Int64) (hi : (i : Int) ≤ Number.greatest)
    (h : ¬ Fits (i * s.toInt)) : halting.term a s i = .error .halted :=
  Machine.trapping_term_of_not_fits (m := Evaluated) (.error .halted) a s hi h

/-- The machine that stops gives an item that fits exactly if its distance from the start does. -/
theorem halting_term_iff (hi : (i : Int) ≤ Number.greatest) (hsum : Fits (a.toInt + i * s.toInt)) :
    halting.term a s i = .ok ((Machine.wrapping Id).term a s i).run ↔ Fits (i * s.toInt) := by
  constructor
  · intro h
    -- where the product does not fit, the machine has stopped already
    by_contra hproduct
    rw [halting_term_of_not_fits a s hi hproduct] at h
    cases h
  · intro hproduct
    exact faithful_halting.term_eq_wrapping a s hi hproduct hsum

/-- Values that may be missing are those of a function if none of them is missing. -/
theorem mapM_eq_ok_map {ε α β : Type} {f : α → Except ε β} {g : α → β} {xs : List α}
    (h : ∀ x ∈ xs, f x = .ok (g x)) : xs.mapM f = .ok (xs.map g) := by
  induction xs with
  | nil => rfl
  | cons x xs ih =>
    obtain ⟨hx, hrest⟩ := List.forall_mem_cons.1 h
    rw [List.mapM_cons, hx, ih hrest]
    rfl

/-- If some are missing, all for one reason, then that is the outcome. -/
theorem mapM_eq_error {ε α β : Type} {f : α → Except ε β} {e : ε} {xs : List α}
    (h : ∀ x ∈ xs, (∃ b, f x = .ok b) ∨ f x = .error e) (hsome : ∃ x ∈ xs, f x = .error e) :
    xs.mapM f = .error e := by
  induction xs with
  | nil =>
    obtain ⟨x, hx, -⟩ := hsome
    cases hx
  | cons x xs ih =>
    obtain ⟨hx, hrest⟩ := List.forall_mem_cons.1 h
    rw [List.mapM_cons]
    rcases hx with ⟨b, hb⟩ | he
    · -- the reason is with one of the others
      have hothers : ∃ y ∈ xs, f y = .error e := by
        obtain ⟨y, hy, he⟩ := hsome
        rcases List.mem_cons.1 hy with rfl | hy
        · cases hb.symm.trans he
        · exact ⟨y, hy, he⟩
      rw [hb, ih hrest hothers]
      rfl
    · rw [he]
      rfl

/-- **The machine that stops gives a range** exactly if the distance of the last item from the
start fits. -/
theorem stepped_halting (hn : n ≤ maxLength) (hsum : ∀ i < n, Fits (a.toInt + i * s.toInt)) :
    (Fits ((n - 1 : ℕ) * s.toInt) → stepped halting a s n = .ok ((words a s n).map .int))
    ∧ (¬ Fits ((n - 1 : ℕ) * s.toInt) → stepped halting a s n = .error .halted) := by
  have hitem : ∀ i ∈ List.range n, Fits (i * s.toInt) →
      Value.int <$> halting.term a s i = .ok (Value.int (a + Int64.ofNat i * s)) := by
    intro i hi hproduct
    have hlt := List.mem_range.1 hi
    rw [(halting_term_iff (le_greatest_of_lt hlt hn) (hsum i hlt)).2 hproduct]
    rfl
  have hstop : ∀ i ∈ List.range n, ¬ Fits (i * s.toInt) →
      Value.int <$> halting.term a s i = .error .halted := by
    intro i hi hproduct
    rw [halting_term_of_not_fits a s (le_greatest_of_lt (List.mem_range.1 hi) hn) hproduct]
    rfl
  rw [← forall_fits_mul_iff]
  constructor
  · intro hfits
    rw [stepped, words, List.map_map]
    exact mapM_eq_ok_map fun i hi => hitem i hi (hfits i (List.mem_range.1 hi))
  · intro hfits
    -- at every item the machine goes on or stops, and somewhere it stops
    refine mapM_eq_error (fun i hi => ?_) ?_
    · by_cases hproduct : Fits (i * s.toInt)
      · exact .inl ⟨_, hitem i hi hproduct⟩
      · exact .inr (hstop i hi hproduct)
    · push Not at hfits
      obtain ⟨i, hi, hproduct⟩ := hfits
      exact ⟨i, List.mem_range.2 hi, hstop i (List.mem_range.2 hi) hproduct⟩

/-- What is refused is refused by every machine. -/
theorem wholeRange_halting_of_error {e : EvalError}
    (h : wholeRange (.wrapping Evaluated) a b s = .error e) :
    wholeRange halting a b s = .error e := by
  by_cases hs : s = 0
  · subst hs
    rw [wholeRange_zero] at h ⊢
    exact h
  -- the count is tested before any item is computed, so both machines refuse alike
  rcases Nat.lt_or_ge maxLength (stepCount a.toInt b.toInt s.toInt) with hover | hlimit
  · rw [wholeRange_of_lt _ hs hover] at h ⊢
    exact h
  · rw [wholeRange_of_le _ hs hlimit, stepped_wrapping] at h
    cases h

end Range

open Range

/-- **Which untested steps fit.**  The machine that stops at an overflow gives every quotient and
remainder, and every position in what is no longer than a word tells.  Of a range every item fits,
and the machine gives an item exactly if its distance from the start fits.  It gives the range if
the distance of the last item does, and stops otherwise. -/
theorem steps_fit (a b : Int64) :
    halting.floorDiv? a b = .ok ((Machine.wrapping Id).floorDiv? a b).run
    ∧ halting.floorMod? a b = .ok ((Machine.wrapping Id).floorMod? a b).run
    ∧ (∀ length : Nat, (length : Int) ≤ Number.greatest →
      halting.fromEnd a length = .ok ((Machine.wrapping Id).fromEnd a length).run)
    ∧ ∀ s : Int64,
      (∀ e, arange (.wrapping Evaluated) (.int a) (.int b) (.int s) = .error e →
        arange halting (.int a) (.int b) (.int s) = .error e)
      ∧ ∀ items, arange (.wrapping Evaluated) (.int a) (.int b) (.int s) = .ok items →
        (∀ i < items.length, Fits (a.toInt + i * s.toInt)
          ∧ (halting.term a s i = .ok ((Machine.wrapping Id).term a s i).run
            ↔ Fits (i * s.toInt)))
        ∧ (Fits ((items.length - 1 : ℕ) * s.toInt) →
          arange halting (.int a) (.int b) (.int s) = .ok items)
        ∧ (¬ Fits ((items.length - 1 : ℕ) * s.toInt) →
          arange halting (.int a) (.int b) (.int s) = .error .halted) := by
  refine ⟨faithful_halting.floorDiv?_eq_wrapping a b, faithful_halting.floorMod?_eq_wrapping a b,
    fun length hlength => faithful_halting.fromEnd_eq_wrapping a hlength, fun s => ?_⟩
  refine ⟨fun e h => wholeRange_halting_of_error h, fun items h => ?_⟩
  -- a range that is given is one within the limit, of words before the stop
  obtain ⟨hs, rfl, hlimit⟩ := of_wholeRange h
  have hsum : ∀ i < stepCount a.toInt b.toInt s.toInt, Fits (a.toInt + i * s.toInt) :=
    fun i hi => fits_of_before ((lt_stepCount_iff (Number.toInt_ne_zero hs)).mp hi)
  obtain ⟨hgoes, hstops⟩ := stepped_halting hlimit hsum
  have hrange : arange halting (.int a) (.int b) (.int s) = stepped halting a s _ :=
    wholeRange_of_le halting hs hlimit
  rw [List.length_map, length_words, hrange]
  exact ⟨fun i hi => ⟨hsum i hi, halting_term_iff (le_greatest_of_lt hi hlimit) (hsum i hi)⟩,
    hgoes, hstops⟩

/-- The machine that stops gives the range from -2 to 2 in steps of 2, the quotient of the least
word by two and the last position of three. -/
theorem steps_fit_of_small :
    halting.floorDiv? Int64.minValue 2 = .ok (some (-4611686018427387904))
      ∧ halting.fromEnd (-1) 3 = .ok 2
      ∧ arange halting (.int (-2)) (.int 2) (.int 2) = .ok [.int (-2), .int 0] := by
  obtain ⟨hdivision, -⟩ := steps_fit Int64.minValue 2
  obtain ⟨-, -, hposition, -⟩ := steps_fit (-1) 0
  obtain ⟨-, -, -, hrange⟩ := steps_fit (-2) 2
  obtain ⟨-, hgoes, -⟩ := (hrange 2).2 [.int (-2), .int 0] rfl
  exact ⟨hdivision, hposition 3 (by decide), hgoes (by decide)⟩

/-- Not every untested step fits.  From the least word to the greatest in steps of `2 ^ 62` there
are four items, and the third is farther from the start than any word tells, so that the machine
stops when it computes the range. -/
theorem not_steps_fit_of_distance :
    (¬ ∀ (a b s : Int64) (items : List Value),
      arange (.wrapping Evaluated) (.int a) (.int b) (.int s) = .ok items →
      ∀ i < items.length, Fits (i * s.toInt)
        ∧ halting.term a s i = .ok ((Machine.wrapping Id).term a s i).run)
      ∧ arange halting (.int Int64.minValue) (.int Int64.maxValue) (.int 4611686018427387904)
        = .error .halted := by
  constructor
  · intro h
    obtain ⟨hfits, -⟩ := h Int64.minValue Int64.maxValue 4611686018427387904
      [.int (-9223372036854775808), .int (-4611686018427387904), .int 0, .int 4611686018427387904]
      rfl 2 (by decide)
    -- the third item is `2 * 2 ^ 62` from the start
    revert hfits
    decide
  · rfl

end ConfigTree
