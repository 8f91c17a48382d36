import ConfigTree.Number.Layout
import ConfigTree.Proofs.Text.Bytes
import Mathlib

/-!
# The width of a number's text

The text of a number is never long.  That of a float has no exponent, but the digits of the
shortest decimal and the zeros beside them are bounded by the range of the float's own exponent.
The bounds are generous; what counts is that one number holds for all floats.

## Main results

* `Interval.log2_value_le`, `Interval.log2_den_le` — the range of a float as a fraction.
* `shortest_bounds` — the digits and the place of its shortest decimal.
* `utf8ByteSize_toString_le` — no whole number has a text of more than 84 bytes.
* `utf8ByteSize_readable_le` — no float has a text of more than 12500 bytes.
-/

namespace ConfigTree.Number

/-! ### The float as a fraction -/

theorem biased_le (x : Float) : biased x ≤ 2047 := by
  rw [biased, UInt64.toNat_and]
  exact Nat.and_le_right

theorem mantissa_lt (x : Float) : mantissa x < 2 ^ 53 := by
  have hfraction : (x.toBits &&& 0xFFFFFFFFFFFFF).toNat ≤ 4503599627370495 := by
    rw [UInt64.toNat_and]
    exact Nat.and_le_right
  unfold mantissa
  dsimp only
  split <;> omega

theorem exponent_bounds (x : Float) : -1074 ≤ exponent x ∧ exponent x ≤ 972 := by
  have hbiased := biased_le x
  unfold exponent
  split <;> omega

namespace Interval

theorem log2_value_le (x : Float) : Nat.log2 (ofFloat x).value ≤ 1024 := by
  have hm := mantissa_lt x
  obtain ⟨-, hq⟩ := exponent_bounds x
  -- a mantissa of 53 bits, moved up by at most 970
  have hlog (s : Nat) (hs : s ≤ 970) : Nat.log2 (4 * mantissa x * 2 ^ s) ≤ 1024 := by
    have hlt : 4 * mantissa x * 2 ^ s < 2 ^ (55 + s) := by
      rw [Nat.pow_add]
      exact Nat.mul_lt_mul_of_pos_right (by omega) (Nat.two_pow_pos s)
    rcases Nat.eq_zero_or_pos (4 * mantissa x * 2 ^ s) with hzero | hpos
    · simp [hzero]
    · have hlog := (Nat.log2_lt hpos.ne').2 hlt
      omega
  show Nat.log2 (if 0 ≤ exponent x - 2 then (4 * mantissa x) <<< (exponent x - 2).toNat
    else 4 * mantissa x) ≤ 1024
  split
  · rw [Nat.shiftLeft_eq]
    exact hlog _ (by omega)
  · simpa using hlog 0 (by decide)

theorem log2_den_le (x : Float) : Nat.log2 (ofFloat x).den ≤ 1076 := by
  obtain ⟨hq, -⟩ := exponent_bounds x
  show Nat.log2 (if 0 ≤ exponent x - 2 then 1 else 1 <<< (-(exponent x - 2)).toNat) ≤ 1076
  split
  · decide
  · rw [Nat.one_shiftLeft, Nat.log2_two_pow]
    omega

/-- A neighbour on a grid is hardly greater than the float is on it. -/
theorem le_of_onGrid? {i : Interval} {tie : Tie} {scale : Int} {d : Nat}
    (h : i.onGrid? tie scale = some d) : d ≤ i.value * 10 ^ (-scale).toNat + 1 := by
  have hover : (i.over scale).1 ≤ i.value * 10 ^ (-scale).toNat := by
    unfold Interval.over
    split
    · exact Nat.le_mul_of_pos_right _ (Nat.pow_pos (by decide))
    · exact Nat.le_refl _
  have hbelow : (i.over scale).1 / (i.over scale).2 ≤ i.value * 10 ^ (-scale).toNat :=
    (Nat.div_le_self _ _).trans hover
  unfold onGrid? at h
  dsimp only at h
  -- what is taken is the neighbour below or the one above
  generalize (i.over scale).1 / (i.over scale).2 = below at h hbelow
  grind

/-- The search ends on one of the grids that it visits. -/
theorem search_bounds (i : Interval) (tie : Tie) (n : Nat) (scale : Int) :
    (i.search tie n scale).1 ≤ i.value * 10 ^ (n - scale).toNat + 1
      ∧ scale - n ≤ (i.search tie n scale).2 ∧ (i.search tie n scale).2 ≤ scale := by
  induction n generalizing scale with
  | zero =>
    have hdiv := Nat.div_le_self i.value i.den
    have hmul : i.value ≤ i.value * 10 ^ ((0 : Nat) - scale).toNat :=
      Nat.le_mul_of_pos_right _ (Nat.pow_pos (by decide))
    refine ⟨?_, by simp [search], by simp [search]⟩
    show i.value / i.den ≤ _
    omega
  | succ n ih =>
    have hnext : (n - (scale - 1)).toNat = ((n + 1 : Nat) - scale).toNat := by omega
    obtain ⟨hd, hlow, hhigh⟩ := ih (scale - 1)
    rw [hnext] at hd
    unfold search
    split
    · exact ⟨hd, by omega, by omega⟩
    · exact ⟨hd, by omega, by omega⟩
    next d _ hgrid =>
      have hpow : i.value * 10 ^ (-scale).toNat ≤ i.value * 10 ^ ((n + 1 : Nat) - scale).toNat :=
        Nat.mul_le_mul_left _ (Nat.pow_le_pow_right (by decide) (by omega))
      have hle := le_of_onGrid? hgrid
      exact ⟨by simpa using hle.trans (Nat.succ_le_succ hpow), by omega, by omega⟩

end Interval

theorem leadingPlace_bounds (num den n : Nat) (k : Int) :
    k - n ≤ leadingPlace num den n k ∧ leadingPlace num den n k ≤ k := by
  induction n generalizing k with
  | zero => simp [leadingPlace]
  | succ n ih =>
    obtain ⟨hlow, hhigh⟩ := ih (k - 1)
    unfold leadingPlace
    dsimp only
    split
    · split <;> omega
    · split <;> omega

theorem placeAbove_bounds (x : Float) :
    -330 ≤ placeAbove (Interval.ofFloat x).value (Interval.ofFloat x).den
      ∧ placeAbove (Interval.ofFloat x).value (Interval.ofFloat x).den ≤ 310 := by
  have hvalue := Interval.log2_value_le x
  have hden := Interval.log2_den_le x
  unfold placeAbove
  omega

/-! ### The shortest decimal -/

/-- A zero less in the digits is one more in the place. -/
theorem dropZeros_bounds {d e : Nat} (hd : d < 10 ^ e) (scale : Int) :
    (dropZeros d scale).1 < 10 ^ e ∧ scale ≤ (dropZeros d scale).2
      ∧ (dropZeros d scale).2 ≤ scale + e := by
  induction e generalizing d scale with
  | zero =>
    obtain rfl : d = 0 := by simpa using hd
    simp [dropZeros]
  | succ e ih =>
    unfold dropZeros
    split
    · exact ⟨hd, by omega, by omega⟩
    · have htenth : d / 10 < 10 ^ e := by
        rw [Nat.pow_succ] at hd
        exact Nat.div_lt_of_lt_mul (by omega)
      obtain ⟨hdrop, hlow, hhigh⟩ := ih htenth (scale + 1)
      exact ⟨hdrop.trans_le (Nat.pow_le_pow_right (by decide) (Nat.le_succ e)), by omega, by omega⟩

/-- A number of bits takes no more decimal digits. -/
theorem lt_pow_of_le_mul {v d l m : Nat} (hv : v < 2 ^ l) (hd : d ≤ v * 10 ^ m + 1) :
    d < 10 ^ (l + m + 1) := by
  have hpos : 0 < 10 ^ (l + m) := Nat.pow_pos (by decide)
  -- a bit is less than a digit, which leaves room for the one more
  have hten : (2 : Nat) ^ l ≤ 10 ^ l := Nat.pow_le_pow_left (by decide) l
  have hmul : v * 10 ^ m ≤ 10 ^ (l + m) := by
    rw [Nat.pow_add]
    exact Nat.mul_le_mul_right _ (hv.le.trans hten)
  rw [Nat.pow_succ]
  omega

/-- The digits are a number below a power of ten, and the place is near the point. -/
theorem shortest_bounds (tie : Tie) (x : Float) :
    ∃ e ≤ 1378, (shortest tie x).1 < 10 ^ e
      ∧ -352 ≤ (shortest tie x).2 ∧ (shortest tie x).2 ≤ 1688 := by
  have hlog := Interval.log2_value_le x
  obtain ⟨hplace, hplace'⟩ := placeAbove_bounds x
  obtain ⟨htop, htop'⟩ := leadingPlace_bounds (Interval.ofFloat x).value (Interval.ofFloat x).den 4
    (placeAbove (Interval.ofFloat x).value (Interval.ofFloat x).den)
  generalize htop_eq : leadingPlace _ _ _ _ = top at htop htop'
  obtain ⟨hd, hscale, hscale'⟩ := (Interval.ofFloat x).search_bounds tie 18 top
  generalize hfound : (Interval.ofFloat x).search tie 18 top = found at hd hscale hscale'
  -- Powers of ten stay symbolic: no step evaluates a number of so many digits.
  have hdigits := lt_pow_of_le_mul Nat.lt_log2_self hd
  obtain ⟨hdrop, hlow, hhigh⟩ := dropZeros_bounds hdigits found.2
  have hshortest : shortest tie x = dropZeros found.1 found.2 := by
    rw [← hfound, ← htop_eq]
    rfl
  rw [hshortest]
  exact ⟨_, by omega, hdrop, by omega, by omega⟩

/-! ### The text -/

theorem utf8ByteSize_positionalText_le (digits : List Char) (point : Int) (wholeEnd : String) :
    (positionalText digits point wholeEnd).utf8ByteSize
      ≤ 4 * (digits.length + (point - digits.length).natAbs + 2) + wholeEnd.utf8ByteSize := by
  unfold positionalText
  dsimp only
  split
  · rw [String.utf8ByteSize_append, String.utf8ByteSize_ofList]
    have hle := Text.utf8Len_le (digits ++ List.replicate (point - digits.length).toNat '0')
    rw [List.length_append, List.length_replicate] at hle
    omega
  · split
    · rw [String.utf8ByteSize_ofList]
      refine (Text.utf8Len_le _).trans ?_
      simp only [List.length_append, List.length_take, List.length_drop, List.length_singleton]
      omega
    · rw [String.utf8ByteSize_ofList]
      refine (Text.utf8Len_le _).trans ?_
      simp only [List.length_append, List.length_replicate, List.length_cons, List.length_nil]
      omega

theorem utf8ByteSize_magnitude_le (l : Layout) (hl : ∀ k, l.positional k = true) (x : Float) :
    (l.magnitude x).utf8ByteSize ≤ 12476 + l.wholeEnd.utf8ByteSize := by
  unfold Layout.magnitude
  split
  · rw [String.utf8ByteSize_append]
    have hzero : "0".utf8ByteSize = 1 := rfl
    omega
  · obtain ⟨e, he, hd, hlow, hhigh⟩ := shortest_bounds l.tie x
    have hdigits := Nat.toDigits_length 10 _ (e + 1) (by omega)
      (hd.trans_le (Nat.pow_le_pow_right (by decide) (Nat.le_succ e)))
    dsimp only
    rw [hl, if_pos rfl]
    refine (utf8ByteSize_positionalText_le _ _ _).trans ?_
    omega

theorem utf8ByteSize_write_le (l : Layout) (hl : ∀ k, l.positional k = true) (x : Float) :
    (l.write x).utf8ByteSize ≤ l.nan.utf8ByteSize + l.infinity.utf8ByteSize
      + l.wholeEnd.utf8ByteSize + 12477 := by
  have hmagnitude := utf8ByteSize_magnitude_le l hl x.abs
  have hsign : "-".utf8ByteSize = 1 := rfl
  unfold Layout.write
  dsimp only
  split
  · omega
  · split
    · rw [String.utf8ByteSize_append]
      split <;> omega
    · split <;> omega

/-- No whole number has a long text. -/
theorem utf8ByteSize_toString_le (n : Int64) : (toString n.toInt).utf8ByteSize ≤ 84 := by
  -- twenty digits of at most four bytes each, and a sign
  have hrepr (m : Nat) (hm : m < 10 ^ 20) : (Nat.repr m).utf8ByteSize ≤ 80 := by
    have hlength := Nat.repr_length m 20 (by decide) hm
    have hbytes := Text.utf8ByteSize_le (Nat.repr m)
    omega
  have hlow := n.le_toInt
  have hhigh := n.toInt_lt
  cases hn : n.toInt with
  | ofNat m =>
    rw [hn, Int.ofNat_eq_natCast] at hhigh
    have hm := hrepr m (by omega)
    show (Nat.repr m).utf8ByteSize ≤ 84
    omega
  | negSucc m =>
    have hm := hrepr (m + 1) (by omega)
    have hsign : "-".utf8ByteSize = 1 := rfl
    show ("-" ++ Nat.repr (m + 1)).utf8ByteSize ≤ 84
    rw [String.utf8ByteSize_append]
    omega

/-- No float has a long text. -/
theorem utf8ByteSize_readable_le (x : Float) : (readable x).utf8ByteSize ≤ 12500 := by
  unfold readable
  split
  · decide
  · split
    · exact (utf8ByteSize_write_le _ (fun _ => rfl) x).trans (by decide)
    · exact (utf8ByteSize_write_le _ (fun _ => rfl) x).trans (by decide)

end ConfigTree.Number
