import ConfigTree.TreePath

/-!
# Cutting a text at a character

A text is cut into one part more than the character occurs in it, so into one part at least.
What is put behind the character at the end of a text is the last part.  Dotted keys are cut in
this way.

## Main results

* `Text.splitFrom_ne_nil` — there is a part.
* `Text.splitOn_of_notMem` — a text without the character is its only part.
* `Text.splitOn_append` — one more part.
* `TreePath.parts_ne_nil` — a dotted key has a first part.
-/

namespace ConfigTree.Text

section Parts

variable {head : Char} {tail s a b : List Char} {done : List (List Char)}

/-- What has no further occurrence is the last part. -/
theorem splitFrom_eq_of_none (h : cut? head tail s = none) :
    splitFrom head tail done s = done.reverse ++ [s] := by
  rw [splitFrom]
  split
  · rw [List.reverse_cons]
  · next hsome => simp [h] at hsome

theorem splitFrom_eq_of_some (h : cut? head tail s = some (a, b)) :
    splitFrom head tail done s = splitFrom head tail (a :: done) b := by
  rw [splitFrom]
  split
  · next hnone => simp [h] at hnone
  · next hsome =>
    obtain ⟨rfl, rfl⟩ := Prod.mk.inj (Option.some.inj (h.symm.trans hsome))
    rfl

theorem splitFrom_ne_nil (head : Char) (tail : List Char) (done : List (List Char))
    (cs : List Char) : splitFrom head tail done cs ≠ [] := by
  induction done, cs using splitFrom.induct head tail with
  | case1 done cs h =>
    rw [splitFrom_eq_of_none h]
    simp
  | case2 done cs a b h ih => rwa [splitFrom_eq_of_some h]

end Parts

section Character

variable {c : Char} {s t a b passed : List Char}

theorem cutFrom?_of_notMem (h : c ∉ s) : cutFrom? c [] passed s = none := by
  induction s generalizing passed with
  | nil => rfl
  | cons d s ih =>
    obtain ⟨hd, hs⟩ := List.ne_and_not_mem_of_not_mem_cons h
    rw [cutFrom?, if_neg hd.symm]
    exact ih hs

/-- What comes behind the first occurrence does not move it. -/
theorem cutFrom?_append_of_some (h : cutFrom? c [] passed s = some (a, b)) :
    cutFrom? c [] passed (s ++ t) = some (a, b ++ t) := by
  induction s generalizing passed with
  | nil => cases h
  | cons d s ih =>
    rw [List.cons_append]
    by_cases hd : d = c
    · rw [cutFrom?, if_pos hd] at h ⊢
      simp only [after?] at h ⊢
      cases h
      rfl
    · rw [cutFrom?, if_neg hd] at h ⊢
      exact ih h

/-- The first occurrence is the one behind a text that has none. -/
theorem cutFrom?_append_of_none (h : cutFrom? c [] passed s = none) :
    cutFrom? c [] passed (s ++ c :: t) = some (passed.reverse ++ s, t) := by
  induction s generalizing passed with
  | nil => simp [cutFrom?, after?]
  | cons d s ih =>
    rw [List.cons_append]
    by_cases hd : d = c
    · rw [cutFrom?, if_pos hd] at h
      simp only [after?] at h
      cases h
    · rw [cutFrom?, if_neg hd] at h ⊢
      rw [ih h, List.reverse_cons, List.append_assoc, List.singleton_append]

/-- A text without the character is its only part. -/
theorem splitOn_of_notMem (h : c ∉ s) : splitOn [c] s = [s] :=
  splitFrom_eq_of_none (cutFrom?_of_notMem h)

theorem splitFrom_append {done : List (List Char)} (ht : c ∉ t) :
    splitFrom c [] done (s ++ c :: t) = splitFrom c [] done s ++ [t] := by
  induction done, s using splitFrom.induct c [] with
  | case1 done s h =>
    have hcut : cut? c [] (s ++ c :: t) = some (s, t) := cutFrom?_append_of_none h
    -- `s` has no occurrence, so that the one behind it is the first
    rw [splitFrom_eq_of_some hcut, splitFrom_eq_of_none h,
      splitFrom_eq_of_none (cutFrom?_of_notMem ht), List.reverse_cons]
  | case2 done s a b h ih =>
    have hcut : cut? c [] (s ++ c :: t) = some (a, b ++ c :: t) := cutFrom?_append_of_some h
    -- both texts are cut at the same place, and what follows is cut by induction
    rw [splitFrom_eq_of_some hcut, splitFrom_eq_of_some h]
    exact ih

/-- What is put behind the character at the end of a text is one more part. -/
theorem splitOn_append (ht : c ∉ t) : splitOn [c] (s ++ c :: t) = splitOn [c] s ++ [t] :=
  splitFrom_append ht

end Character

end ConfigTree.Text

namespace ConfigTree.TreePath

@[simp] theorem parts_ne_nil (dotted : String) : parts dotted ≠ [] := by
  intro h
  rw [parts, List.map_eq_nil_iff] at h
  exact Text.splitFrom_ne_nil _ _ _ _ h

end ConfigTree.TreePath
