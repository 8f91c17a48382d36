import ConfigTree.Cipher.Fernet
import ConfigTree.Eval.Function
import ConfigTree.Proofs.Value.Order

/-!
# The extreme of some values

The least or the greatest of some values is looked for from the front: the value held so far
gives way to one that beats it, and to no other.  If any two of the values have an order, what is
held after a part of them is the first of that part that no value of the part beats.

This rests on the order being transitive.  A value that beats the one held beats all before it as
well, since none of those beat the one held; and none of them beats it, or that one would beat the
one held.

## Main definitions

* `Value.Beats` — one value orders to another as wanted.
* `Value.First` — the first value of a list that none of the list beats.

## Main results

* `Value.First.next`, `Value.First.keep` — one more value, that beats the one held or does not.
* `Function.exists_best` — what is held in the end.
* `extreme_first` — the least and the greatest of values.
-/

namespace ConfigTree

namespace Value

/-- The value orders to `w` as wanted. -/
def Beats (wanted : Ordering) (v w : Value) : Prop := v.order? w = .ok (some wanted)

/-- The value `v` at position `i` is the first that none of the values beats. -/
structure First (wanted : Ordering) (vs : List Value) (i : Nat) (v : Value) : Prop where
  /-- Where it stands. -/
  get? : vs[i]? = some v
  /-- No value beats it. -/
  unbeaten : ∀ w ∈ vs, ¬ w.Beats wanted v
  /-- All before it are beaten. -/
  earlier : ∀ j < i, ∀ u, vs[j]? = some u → ∃ w ∈ vs, w.Beats wanted u

namespace FloatFree

variable {u v w : Value} {wanted o : Ordering}

theorem beats_swap (hv : v.FloatFree) (hw : w.FloatFree) (h : v.Beats o w) :
    w.Beats o.swap v := hv.order?_swap hw h

theorem not_beats_self (hv : v.FloatFree) (hwanted : wanted ≠ .eq) : ¬ v.Beats wanted v := by
  intro h
  obtain ⟨r, hr, hiff⟩ := hv.exists_of_order? hv h
  obtain rfl := Option.some.inj hr
  exact hwanted (hiff.mpr hv.equal_refl)

theorem beats_trans (hu : u.FloatFree) (hv : v.FloatFree) (hw : w.FloatFree)
    (hwanted : wanted ≠ .eq) (huv : u.Beats wanted v) (hvw : v.Beats wanted w) :
    u.Beats wanted w := by
  cases wanted with
  | eq => exact absurd rfl hwanted
  | lt => exact hu.order?_trans hv hw huv hvw
  | gt =>
    -- the greater in turn, read backwards, are the lesser in turn
    have hvu : v.Beats .lt u := hu.beats_swap hv huv
    have hwv : w.Beats .lt v := hv.beats_swap hw hvw
    have hwu : w.Beats .lt u := hw.order?_trans hv hu hwv hvu
    exact hw.beats_swap hu hwu

/-- What beats a value beats all that do not beat it. -/
theorem beats_of_not_beats (hu : u.FloatFree) (hv : v.FloatFree) (hw : w.FloatFree)
    (hwanted : wanted ≠ .eq) (huv : u.Beats wanted v) (hwv : ¬ w.Beats wanted v)
    (huw : ∃ o, u.order? w = .ok o) : u.Beats wanted w := by
  obtain ⟨o, ho⟩ := huw
  obtain ⟨r, rfl, hiff⟩ := hu.exists_of_order? hw ho
  by_contra hne
  apply hwv
  by_cases heq : r = .eq
  · -- the two are equal, and have the same order
    exact hu.order?_congr hw hv (hiff.mp heq) huv
  -- the order is told and is neither the wanted one nor equality: it is the reverse
  · have hswap : r.swap = wanted := by
      have hr : r ≠ wanted := fun h => hne (h ▸ ho)
      revert hr heq hwanted
      cases r <;> cases wanted <;> decide
    exact hw.beats_trans hu hv hwanted (hswap ▸ hu.beats_swap hw ho) huv

end FloatFree

namespace First

variable {wanted : Ordering} {seen : List Value} {i : Nat} {v w : Value}

/-- A value that beats the one held is the first of all that none beats. -/
theorem next (h : First wanted seen i v) (hwanted : wanted ≠ .eq)
    (hseen : ∀ u ∈ seen, u.FloatFree) (hw : w.FloatFree)
    (horder : ∀ u ∈ seen, ∃ o, w.order? u = .ok o) (hbeats : w.Beats wanted v) :
    First wanted (seen ++ [w]) seen.length w where
  get? := by simp
  unbeaten := by
    intro u hu hbeats'
    have hv : v ∈ seen := List.mem_of_getElem? h.get?
    rcases List.mem_append.mp hu with hu | hu
    -- what beat the new one would have beaten the old one
    · have htrans := (hseen u hu).beats_trans hw (hseen v hv) hwanted hbeats' hbeats
      exact h.unbeaten u hu htrans
    · obtain rfl := List.mem_singleton.mp hu
      exact hw.not_beats_self hwanted hbeats'
  earlier := by
    intro j hj u hu
    rw [List.getElem?_append_left hj] at hu
    have hu' : u ∈ seen := List.mem_of_getElem? hu
    have hv : v ∈ seen := List.mem_of_getElem? h.get?
    refine ⟨w, List.mem_append_right seen List.mem_cons_self, ?_⟩
    exact hw.beats_of_not_beats (hseen v hv) (hseen u hu') hwanted hbeats (h.unbeaten u hu')
      (horder u hu')

/-- A value that does not beat the one held changes nothing. -/
theorem keep (h : First wanted seen i v) (hbeats : ¬ w.Beats wanted v) :
    First wanted (seen ++ [w]) i v where
  get? := by
    obtain ⟨hi, -⟩ := List.getElem?_eq_some_iff.mp h.get?
    rw [List.getElem?_append_left hi, h.get?]
  unbeaten := by
    intro u hu
    rcases List.mem_append.mp hu with hu | hu
    · exact h.unbeaten u hu
    · obtain rfl := List.mem_singleton.mp hu
      exact hbeats
  earlier := by
    intro j hj u hu
    obtain ⟨hi, -⟩ := List.getElem?_eq_some_iff.mp h.get?
    rw [List.getElem?_append_left (Nat.lt_trans hj hi)] at hu
    obtain ⟨x, hx, hxu⟩ := h.earlier j hj u hu
    exact ⟨x, List.mem_append_left [w] hx, hxu⟩

end First

end Value

namespace Function

open Value

variable {wanted : Ordering}

/-- **What is held in the end** is the first of all values that none beats. -/
theorem exists_best (hwanted : wanted ≠ .eq) {seen rest : List Value} {i : Nat} {v : Value}
    (h : First wanted seen i v) (hfree : ∀ u ∈ seen ++ rest, u.FloatFree)
    (horder : (seen ++ rest).Pairwise fun u w => ∃ o, u.order? w = .ok o) :
    ∃ j u, First wanted (seen ++ rest) j u ∧ best wanted v rest = .ok u := by
  -- on the values to come; the invariant is that `v` is the first unbeaten of those seen
  induction rest generalizing seen i v with
  | nil => exact ⟨i, v, by rwa [List.append_nil], rfl⟩
  | cons w rest ih =>
    have hseen : ∀ u ∈ seen, u.FloatFree := fun u hu => hfree u (List.mem_append_left _ hu)
    have hw : w.FloatFree := hfree w (List.mem_append_right seen List.mem_cons_self)
    -- `w` stands behind all that was seen, and so has an order to it
    have hseenOrder : ∀ u ∈ seen, ∃ o, w.order? u = .ok o := by
      intro u hu
      obtain ⟨-, -, hacross⟩ := List.pairwise_append.mp horder
      obtain ⟨o, ho⟩ := hacross u hu w List.mem_cons_self
      exact ⟨_, (hseen u hu).order?_swap hw ho⟩
    have hv : v ∈ seen := List.mem_of_getElem? h.get?
    obtain ⟨o, ho⟩ := hseenOrder v hv
    rw [List.append_cons] at hfree horder ⊢
    have hbest : best wanted v (w :: rest)
        = if o == some wanted then best wanted w rest else best wanted v rest := by
      rw [best, ho]
      rfl
    rw [hbest]
    by_cases hbeats : o = some wanted
    · subst hbeats
      rw [if_pos (beq_self_eq_true _)]
      exact ih (h.next hwanted hseen hw hseenOrder ho) hfree horder
    · rw [if_neg (by rwa [beq_iff_eq])]
      have hkeep : First wanted (seen ++ [w]) i v := by
        apply h.keep
        intro hbeats'
        exact hbeats (Except.ok.inj (ho.symm.trans hbeats'))
      exact ih hkeep hfree horder

/-- The extreme of a list, and of arguments if there are more than one. -/
theorem exists_extreme (name : String) (hwanted : wanted ≠ .eq) (caller : Caller)
    {vs : List Value} (hne : vs ≠ []) (hfree : ∀ v ∈ vs, v.FloatFree)
    (horder : vs.Pairwise fun v w => ∃ o, v.order? w = .ok o) :
    ∃ i v, First wanted vs i v ∧ extreme name wanted caller [.list vs] = .ok v
      ∧ (2 ≤ vs.length → extreme name wanted caller vs = .ok v) := by
  obtain ⟨v, rest, rfl⟩ := List.exists_cons_of_ne_nil hne
  have hfirst : First wanted [v] 0 v := {
    get? := rfl
    unbeaten := by
      intro w hw
      obtain rfl := List.mem_singleton.mp hw
      exact (hfree w List.mem_cons_self).not_beats_self hwanted
    earlier := by
      intro j hj
      exact absurd hj (Nat.not_lt_zero j) }
  obtain ⟨i, u, hu, hbest⟩ := exists_best hwanted hfirst hfree horder
  refine ⟨i, u, hu, hbest, ?_⟩
  intro hlength
  cases rest with
  | nil => exact absurd hlength (by simp)
  | cons w rest =>
    -- two arguments or more are no list that stands for its items
    have hargs : extreme name wanted caller (v :: w :: rest) = best wanted v (w :: rest) := by
      cases v <;> rfl
    rw [hargs, hbest]

end Function

/-- **The least and the greatest of values** without floats of which any two have an order: the
first that none of them orders before, or behind.  The values are given as a list, or as two or
more arguments. -/
theorem extreme_first {vs : List Value} (hne : vs ≠ []) (hfree : ∀ v ∈ vs, v.FloatFree)
    (horder : vs.Pairwise fun v w => ∃ o, v.order? w = .ok o) (M : Number.Machine Evaluated)
    (caller : Caller) :
    ∀ name wanted, name = "min" ∧ wanted = .lt ∨ name = "max" ∧ wanted = .gt →
      ∃ f i v, Entries.get? (FunctionTable.standard M) name = some f
        ∧ Value.First wanted vs i v
        ∧ f caller [.list vs] = .ok v
        ∧ (2 ≤ vs.length → f caller vs = .ok v) := by
  rintro name wanted (⟨rfl, rfl⟩ | ⟨rfl, rfl⟩)
  · have hlt : Ordering.lt ≠ .eq := by decide
    obtain ⟨i, v, h⟩ := Function.exists_extreme "min" hlt caller hne hfree horder
    exact ⟨_, i, v, rfl, h⟩
  · have hgt : Ordering.gt ≠ .eq := by decide
    obtain ⟨i, v, h⟩ := Function.exists_extreme "max" hgt caller hne hfree horder
    exact ⟨_, i, v, rfl, h⟩

/-- Of a truth value and the number that it equals, both the least, the first is taken. -/
theorem extreme_first_of_numbers :
    let vs : List Value := [.int 2, .bool true, .int 1, .int 3]
    let caller : Caller := ⟨⟨[], .null, .null⟩, .keyless "fernet"⟩
    vs ≠ [] ∧ (∀ v ∈ vs, v.FloatFree)
      ∧ (vs.Pairwise fun v w => ∃ o, v.order? w = .ok o)
      ∧ Value.First .lt vs 1 (.bool true)
      ∧ Function.extreme "min" .lt caller [.list vs] = .ok (.bool true)
      ∧ Function.extreme "min" .lt caller vs = .ok (.bool true) := by
  intro vs caller
  have hne : vs ≠ [] := List.cons_ne_nil _ _
  have hfree : ∀ v ∈ vs, v.FloatFree := by simp [vs, Value.FloatFree.int, Value.FloatFree.bool]
  have horder : vs.Pairwise fun v w => ∃ o, v.order? w = .ok o := by
    simp [vs, Value.order?, Value.numeric?]
  obtain ⟨f, i, v, hf, hfirst, hlist, hargs⟩ :=
    extreme_first hne hfree horder Range.halting caller "min" .lt (Or.inl ⟨rfl, rfl⟩)
  obtain rfl : Function.extreme "min" .lt = f := Option.some.inj hf
  obtain rfl : Value.bool true = v := by
    have hrun : Function.extreme "min" .lt caller [.list vs] = .ok (.bool true) := by rfl
    exact Except.ok.inj (hrun.symm.trans hlist)
  have hi : i = 1 := by
    have hget := hfirst.get?
    rcases i with _ | _ | _ | _ | i <;> simp [vs] at hget ⊢
  subst hi
  exact ⟨hne, hfree, horder, hfirst, hlist, hargs (by decide)⟩

end ConfigTree
