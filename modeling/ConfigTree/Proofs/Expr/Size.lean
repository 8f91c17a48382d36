import ConfigTree.Proofs.Expr.Parts
import ConfigTree.Proofs.Text.Bytes

/-!
# The size of what a source writes

No text that an expression quotes is longer than its source, and no list that it writes out
has more items than the source has bytes: each item takes a token, and each token a byte.

## Main definitions

* `Expr.Fits n` — a text has at most `n` bytes, a list or tuple at most `n` items.
* `Grammar.Small n w` — the same of words: few tokens and no long text.

## Main results

* `Grammar.fits_of_writtenIn` — what is written in a small word fits.
* `Lexer.Scanned.size_le` — a text is no longer than the characters that it is read in.
* `fits_of_parseExpression` — an expression fits its source everywhere.
-/

namespace ConfigTree

namespace Expr

/-- A text has at most `n` bytes, a list or tuple at most `n` items. -/
def Fits (n : Nat) : Expr → Prop
  | .str s => s.utf8ByteSize ≤ n
  | .list items => items.length ≤ n
  | .tuple items => items.length ≤ n
  | _ => True

theorem Fits.mono {n m : Nat} (hnm : n ≤ m) {e : Expr} (h : e.Fits n) : e.Fits m := by
  cases e with
  | str | list | tuple => exact Nat.le_trans h hnm
  | _ => trivial

end Expr

open ConfigTree.Expr

namespace Grammar

/-- A word of at most `n` tokens, whose texts have at most `n` bytes. -/
def Small (n : Nat) (w : List Token.Kind) : Prop :=
  w.length ≤ n ∧ ∀ s, .str s ∈ w → s.utf8ByteSize ≤ n

/-- What is written in a small word fits. -/
theorem fits_of_writtenIn {n : Nat} {w : List Token.Kind} (h : Small n w) {e : Expr}
    (he : e.WrittenIn w) : e.Fits n := by
  cases e with
  | str s => exact h.2 s he
  | list | tuple => exact Nat.le_trans he h.1
  | _ => trivial

end Grammar

namespace Lexer

/-- The character that an escape stands for has no more bytes than the escape. -/
theorem utf8Len_unescape_le (c : Char) :
    String.utf8Len (unescape c) ≤ String.utf8Len ['\\', c] := by
  have hpos := c.utf8Size_pos
  unfold unescape
  split <;> simp [Char.utf8Size]

theorem utf8ByteSize_le_of_stringFrom {mark : Char} {cs read : List Char} {n m : Nat} {s : String}
    (h : stringFrom mark read n cs = .ok (s, m)) :
    s.utf8ByteSize ≤ String.utf8Len read + String.utf8Len cs := by
  fun_induction stringFrom mark read n cs with
  | case1 => cases h
  | case2 read n c cs ih =>
    have hle := ih h
    -- an escape is two characters of the source, and one of the text
    have hescape := utf8Len_unescape_le c
    simp only [String.utf8Len_append, String.utf8Len_reverse, String.utf8Len_cons,
      String.utf8Len_nil] at *
    omega
  | case3 =>
    cases h
    rw [String.utf8ByteSize_ofList, String.utf8Len_reverse]
    exact Nat.le_add_right _ _
  | case4 => cases h
  | case5 => cases h
  | case6 read n c cs _ _ _ _ ih =>
    have hle := ih h
    simp only [String.utf8Len_cons] at hle ⊢
    omega

/-- A text is no longer than the characters that it is read in. -/
theorem Scanned.size_le {cs : List Char} {s : String} (h : Scanned cs (.str s)) :
    s.utf8ByteSize ≤ String.utf8Len cs := by
  obtain ⟨pos, c, rest, n, hsuffix, hscan⟩ := h
  have hrest : String.utf8Len rest ≤ String.utf8Len cs := by
    obtain ⟨front, rfl⟩ := hsuffix
    rw [String.utf8Len_append, String.utf8Len_cons]
    omega
  rcases kind_of_scan hscan with (⟨x, hx⟩ | ⟨i, hi⟩) | ⟨hc, hword⟩ | ⟨t, ht, hread⟩ | ⟨t, ht⟩
  · cases hx
  · cases hi
  · rcases kind_of_scanWord hc hword with ⟨k, hk⟩ | ⟨m, hm, -⟩
    · cases hk
    · cases hm
  -- a quoted text, the only token that is one
  · cases ht
    have hsize := utf8ByteSize_le_of_stringFrom hread
    rw [String.utf8Len_nil] at hsize
    omega
  · cases ht

end Lexer

/-- An expression fits its source everywhere. -/
theorem fits_of_parseExpression {source : String} {e : Expr}
    (h : parseExpression source = .ok e) : e.Everywhere (Expr.Fits source.utf8ByteSize) := by
  obtain ⟨w, hlength, hscanned, hwritten⟩ := written_of_parseExpression h
  -- a token for each item, and a byte of the source for each token
  have hsmall : Grammar.Small source.utf8ByteSize w := by
    refine ⟨hlength.trans (Text.length_le_utf8ByteSize source), fun s hs => ?_⟩
    have hsize := (hscanned _ hs).size_le
    rwa [String.utf8Len_toList] at hsize
  exact hwritten.mono fun _ he => Grammar.fits_of_writtenIn hsmall he

end ConfigTree
