import Mathlib

/-!
# The bytes of a text

A character has one to four bytes, so that the length of a text in characters and its size in
bytes bound each other.

## Main results

* `Text.length_le_utf8ByteSize`, `Text.utf8ByteSize_le` — characters and bytes of a text.
* `Text.utf8Len_flatten_replicate` — the bytes of a repeated text.
-/

namespace ConfigTree.Text

/-- A character has at least one byte. -/
theorem length_le_utf8Len (cs : List Char) : cs.length ≤ String.utf8Len cs := by
  induction cs with
  | nil => simp
  | cons c cs ih =>
    have hpos := c.utf8Size_pos
    rw [List.length_cons, String.utf8Len_cons]
    omega

/-- A character has at most four bytes. -/
theorem utf8Len_le (cs : List Char) : String.utf8Len cs ≤ 4 * cs.length := by
  induction cs with
  | nil => simp
  | cons c cs ih =>
    have hsize := c.utf8Size_le_four
    rw [String.utf8Len_cons, List.length_cons]
    omega

theorem length_le_utf8ByteSize (s : String) : s.toList.length ≤ s.utf8ByteSize := by
  rw [← String.utf8Len_toList]
  exact length_le_utf8Len s.toList

theorem utf8ByteSize_le (s : String) : s.utf8ByteSize ≤ 4 * s.length := by
  rw [← String.utf8Len_toList, ← String.length_toList]
  exact utf8Len_le s.toList

theorem utf8Len_flatten_replicate (n : Nat) (s : String) :
    String.utf8Len (List.replicate n s.toList).flatten = n * s.utf8ByteSize := by
  induction n with
  | zero => simp
  | succ n ih =>
    rw [List.replicate_succ, List.flatten_cons, String.utf8Len_append, ih, String.utf8Len_toList,
      Nat.succ_mul, Nat.add_comm]

end ConfigTree.Text
