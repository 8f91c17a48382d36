import ConfigTree.Text.Digit

/-!
# Whole numbers

The integers of a configuration are 64-bit words.  Arithmetic is done on the
exact integers and brought back to a word only if it fits, so that no operation
can wrap unnoticed.

## Main definitions

* `word?` — the word of an integer, if it is in range.
* `digits?`, `readInt?`, `readNat?` — decimal digits as numbers.
-/

namespace ConfigTree.Number

/-- The least integer that fits in a word. -/
def least : Int := -9223372036854775808

/-- The greatest integer that fits in a word. -/
def greatest : Int := 9223372036854775807

/-- The word that holds `n`, if there is one. -/
def word? (n : Int) : Option Int64 :=
  if least ≤ n ∧ n ≤ greatest then some (Int64.ofInt n) else none

theorem word?_eq_some_iff {n : Int} {w : Int64} : word? n = some w ↔ w.toInt = n := by
  unfold word? least greatest
  constructor
  · intro h
    split at h
    · next hr =>
      cases h
      exact Int64.toInt_ofInt_of_le (by omega) (by omega)
    · simp at h
  · rintro rfl
    have h₁ := Int64.le_toInt w
    have h₂ := Int64.toInt_lt w
    rw [if_pos (by omega), Int64.ofInt_toInt]

theorem word?_eq_none_iff {n : Int} : word? n = none ↔ n < least ∨ greatest < n := by
  unfold word?
  split <;> simp <;> omega

@[simp] theorem word?_toInt (w : Int64) : word? w.toInt = some w := word?_eq_some_iff.mpr rfl

/-- Reads on after the number `n` has been read in base `base`; every character must be a
digit below the base. -/
def digitsFrom? (base n : Nat) : List Char → Option Nat
  | [] => some n
  | c :: cs =>
    match Text.digitValue? c with
    | some d => if d < base then digitsFrom? base (n * base + d) cs else none
    | none => none

/-- The number written by one or more digits in base `base`. -/
def digits? (base : Nat) (cs : List Char) : Option Nat :=
  if cs.isEmpty then none else digitsFrom? base 0 cs

/-- A signed decimal number: a sign or none, then one or more digits. -/
def readInt? : List Char → Option Int
  | '-' :: cs => (digits? 10 cs).map fun n => -(n : Int)
  | '+' :: cs => (digits? 10 cs).map fun n => (n : Int)
  | cs => (digits? 10 cs).map fun n => (n : Int)

/-- A position: an optional plus sign and one or more digits, below `2 ^ 64`. -/
def readNat? (cs : List Char) : Option Nat :=
  let digits := match cs with
    | '+' :: rest => rest
    | _ => cs
  (digits? 10 digits).filter (· < 18446744073709551616)

end ConfigTree.Number
