import ConfigTree.Proofs.Text.Split
import Mathlib

/-!
# Occurrences of one text in another

A text is searched from left to right and what has been found is passed over, so that occurrences
that overlap one found before do not count.  Cutting a text at its occurrences and replacing them
see the same occurrences, since both are made of the one step that cuts at the first.

## Main definitions

* `Text.First part s a b` — the first occurrence of `part` in `s` stands between `a` and `b`.
* `Text.Cut sep s parts` — `s` is cut into `parts` at the occurrences of `sep`.

## Main results

* `Text.cut?_eq_some_iff`, `Text.cut?_eq_none_iff` — the one step finds the first occurrence, if
  there is one.
* `Text.Cut.intercalate_eq` — the separators put back between the parts give the text.
* `Text.Cut.not_infix` — in no part there is an occurrence.
* `Text.cut_splitOn`, `Text.replace_eq` — cutting, and replacing as cutting and joining.
-/

namespace ConfigTree.Text

/-- The first occurrence of `part` in `s` stands between `a` and `b`. -/
structure First (part s a b : List Char) : Prop where
  /-- There is an occurrence. -/
  eq : s = a ++ part ++ b
  /-- None begins before it. -/
  least : ∀ c d, s = c ++ part ++ d → a.length ≤ c.length

/-- A text is cut into parts at the occurrences of `sep`, from left to right. -/
inductive Cut (sep : List Char) : List Char → List (List Char) → Prop
  /-- A text without an occurrence is its only part. -/
  | whole {s : List Char} : ¬ sep <:+: s → Cut sep s [s]
  /-- What stands before the first occurrence is the first part. -/
  | first {s a b : List Char} {parts : List (List Char)} :
    First sep s a b → Cut sep b parts → Cut sep s (a :: parts)

variable {head c : Char} {tail passed part sep s a b : List Char} {parts : List (List Char)}

/-! ### The first occurrence -/

/-- An occurrence right at the front is the first. -/
theorem First.of_prefix (part b : List Char) : First part (part ++ b) [] b :=
  ⟨rfl, fun _ _ _ => Nat.zero_le _⟩

/-- If there is none right at the front, the first is the first one behind the front. -/
theorem First.cons (h : First part s a b) (hfront : ¬ part <+: c :: s) :
    First part (c :: s) (c :: a) b where
  eq := by rw [h.eq, List.cons_append, List.cons_append]
  least := by
    intro d e heq
    cases d with
    | nil => exact absurd ⟨e, heq.symm⟩ hfront
    | cons c' d =>
      have hs : s = d ++ part ++ e := (List.cons.inj heq).2
      exact Nat.succ_le_succ (h.least d e hs)

/-- There is one first occurrence. -/
theorem First.unique {a' b' : List Char} (h : First part s a b) (h' : First part s a' b') :
    a = a' ∧ b = b' := by
  have hlength : a.length = a'.length :=
    Nat.le_antisymm (h.least a' b' h'.eq) (h'.least a b h.eq)
  have heq := h.eq.symm.trans h'.eq
  rw [List.append_assoc, List.append_assoc] at heq
  obtain ⟨ha, hb⟩ := List.append_inj heq hlength
  exact ⟨ha, List.append_cancel_left hb⟩

theorem cutFrom?_append (head : Char) (tail passed b : List Char) :
    cutFrom? head tail passed (head :: tail ++ b) = some (passed.reverse, b) := by
  have hafter : after? tail (tail ++ b) = some b := after?_eq_some_iff.mpr rfl
  rw [List.cons_append, cutFrom?, if_pos rfl, hafter]

theorem cutFrom?_cons (h : ¬ head :: tail <+: c :: s) :
    cutFrom? head tail passed (c :: s) = cutFrom? head tail (c :: passed) s := by
  rw [cutFrom?]
  split
  · next hc =>
    subst hc
    split
    · next b hb =>
      refine absurd ⟨b, ?_⟩ h
      rw [after?_eq_some_iff.mp hb, List.cons_append]
    · rfl
  · rfl

theorem cutFrom?_of_first (h : First (head :: tail) s a b) :
    cutFrom? head tail passed s = some (passed.reverse ++ a, b) := by
  induction s generalizing a passed with
  | nil => exact absurd h.eq (by simp)
  | cons c s ih =>
    by_cases hfront : head :: tail <+: c :: s
    · obtain ⟨b', hb'⟩ := hfront
      rw [← hb'] at h ⊢
      obtain ⟨rfl, rfl⟩ := h.unique (First.of_prefix _ b')
      rw [cutFrom?_append, List.append_nil]
    · -- the first occurrence is not at the front, so that it is the first one of the rest
      have ha : ∃ a', a = c :: a' := by
        cases a with
        | nil => exact absurd ⟨b, h.eq.symm⟩ hfront
        | cons c' a => exact ⟨a, by rw [(List.cons.inj h.eq).1]⟩
      obtain ⟨a', rfl⟩ := ha
      have hrest : First (head :: tail) s a' b :=
        ⟨(List.cons.inj h.eq).2, fun d e hd =>
          Nat.le_of_succ_le_succ (h.least (c :: d) e (by rw [hd]; rfl))⟩
      rw [cutFrom?_cons hfront, ih hrest, List.reverse_cons, List.append_assoc,
        List.singleton_append]

theorem exists_first (h : part <:+: s) : ∃ a b, First part s a b := by
  induction s with
  | nil =>
    obtain rfl := List.infix_nil.mp h
    exact ⟨[], [], First.of_prefix [] []⟩
  | cons c s ih =>
    by_cases hfront : part <+: c :: s
    · obtain ⟨b, hb⟩ := hfront
      exact ⟨[], b, hb ▸ First.of_prefix part b⟩
    · obtain ⟨a, b, hrest⟩ := ih ((List.infix_cons_iff.mp h).resolve_left hfront)
      exact ⟨c :: a, b, hrest.cons hfront⟩

theorem cutFrom?_of_not_infix (h : ¬ head :: tail <:+: s) :
    cutFrom? head tail passed s = none := by
  induction s generalizing passed with
  | nil => rfl
  | cons c s ih =>
    obtain ⟨hfront, hrest⟩ := not_or.mp (List.infix_cons_iff.not.mp h)
    rw [cutFrom?_cons hfront, ih hrest]

/-- **Cutting finds the first occurrence.** -/
theorem cut?_eq_some_iff : cut? head tail s = some (a, b) ↔ First (head :: tail) s a b := by
  refine ⟨fun h => ?_, fun h => cutFrom?_of_first h⟩
  have hs := append_of_cutFrom? h
  obtain ⟨a', b', hfirst⟩ := @exists_first (head :: tail) s ⟨a, b, hs.symm⟩
  have h' : cut? head tail s = some (a', b') := cutFrom?_of_first hfirst
  obtain ⟨rfl, rfl⟩ := Prod.mk.inj (Option.some.inj (h.symm.trans h'))
  exact hfirst

theorem cut?_eq_none_iff : cut? head tail s = none ↔ ¬ head :: tail <:+: s := by
  refine ⟨fun h hinfix => ?_, fun h => cutFrom?_of_not_infix h⟩
  obtain ⟨a, b, hfirst⟩ := exists_first hinfix
  rw [cut?_eq_some_iff.mpr hfirst] at h
  cases h

/-! ### Parts -/

namespace Cut

theorem ne_nil (h : Cut sep s parts) : parts ≠ [] := by
  cases h <;> exact List.cons_ne_nil _ _

/-- The separators put back between the parts give the text. -/
theorem intercalate_eq (h : Cut sep s parts) : sep.intercalate parts = s := by
  induction h with
  | whole => rw [List.intercalate_singleton]
  | first hfirst hrest ih =>
    rw [List.intercalate_cons_of_ne_nil hrest.ne_nil, ih, hfirst.eq]

/-- In no part there is an occurrence: it would begin before the first one that was found. -/
theorem not_infix (h : Cut sep s parts) (hsep : sep ≠ []) : ∀ part ∈ parts, ¬ sep <:+: part := by
  induction h with
  | whole hnone => simpa using hnone
  | @first s a b parts hfirst _ ih =>
    refine List.forall_mem_cons.mpr ⟨?_, ih⟩
    rintro ⟨c, d, hcd⟩
    have hs : s = c ++ sep ++ (d ++ sep ++ b) := by
      rw [hfirst.eq, ← hcd]
      simp only [List.append_assoc]
    have hle := hfirst.least c (d ++ sep ++ b) hs
    have hlength := congrArg List.length hcd
    have hpos := List.length_pos_iff.mpr hsep
    simp only [List.length_append] at hlength
    omega

end Cut

/-! ### Cutting and replacing -/

theorem replaceFrom_eq_of_none {new : List Char} {done : List (List Char)}
    (h : cut? head tail s = none) :
    replaceFrom head tail new done s = done.reverse.flatten ++ s := by
  rw [replaceFrom]
  split
  · simp
  · next hsome => simp [h] at hsome

theorem replaceFrom_eq_of_some {new : List Char} {done : List (List Char)}
    (h : cut? head tail s = some (a, b)) :
    replaceFrom head tail new done s = replaceFrom head tail new (new :: a :: done) b := by
  rw [replaceFrom]
  split
  · next hnone => simp [h] at hnone
  · next hsome =>
    obtain ⟨rfl, rfl⟩ := Prod.mk.inj (Option.some.inj (h.symm.trans hsome))
    rfl

theorem splitFrom_of_cut (h : Cut (head :: tail) s parts) (done : List (List Char)) :
    splitFrom head tail done s = done.reverse ++ parts := by
  induction h generalizing done with
  | whole hnone => rw [splitFrom_eq_of_none (cut?_eq_none_iff.mpr hnone)]
  | first hfirst _ ih =>
    rw [splitFrom_eq_of_some (cut?_eq_some_iff.mpr hfirst), ih]
    simp

theorem replaceFrom_of_cut (h : Cut (head :: tail) s parts) (new : List Char)
    (done : List (List Char)) :
    replaceFrom head tail new done s = done.reverse.flatten ++ new.intercalate parts := by
  induction h generalizing done with
  | whole hnone =>
    rw [replaceFrom_eq_of_none (cut?_eq_none_iff.mpr hnone), List.intercalate_singleton]
  | first hfirst hrest ih =>
    rw [replaceFrom_eq_of_some (cut?_eq_some_iff.mpr hfirst), ih,
      List.intercalate_cons_of_ne_nil hrest.ne_nil]
    simp

/-- Every text can be cut. -/
theorem exists_cut (head : Char) (tail s : List Char) : ∃ parts, Cut (head :: tail) s parts := by
  induction hlength : s.length using Nat.strong_induction_on generalizing s with
  | _ n ih =>
    cases h : cut? head tail s with
    | none => exact ⟨[s], .whole (cut?_eq_none_iff.mp h)⟩
    | some found =>
      obtain ⟨a, b⟩ := found
      obtain ⟨parts, hparts⟩ := ih b.length (hlength ▸ length_lt_of_cut? h) b rfl
      exact ⟨a :: parts, .first (cut?_eq_some_iff.mp h) hparts⟩

/-- **A text is cut at the occurrences** of a separator that is not empty. -/
theorem cut_splitOn (h : sep ≠ []) (s : List Char) : Cut sep s (splitOn sep s) := by
  obtain ⟨head, tail, rfl⟩ := List.exists_cons_of_ne_nil h
  obtain ⟨parts, hparts⟩ := exists_cut head tail s
  have hsplit : splitOn (head :: tail) s = parts := splitFrom_of_cut hparts []
  rwa [hsplit]

/-- **Replacing is cutting and joining.** -/
theorem replace_eq (h : sep ≠ []) (new s : List Char) :
    replace sep new s = new.intercalate (splitOn sep s) := by
  obtain ⟨head, tail, rfl⟩ := List.exists_cons_of_ne_nil h
  exact replaceFrom_of_cut (cut_splitOn h s) new []

end ConfigTree.Text
