import ConfigTree.Document.Walk

/-!
# Looking at places and putting things there

What is put at a place is found there, a second thing put at the same place replaces
the first, and something put below a place changes only what stands at that place.

The index of a walk grows by such changes only.  While a node is walked they are all
at its place or below, so that the index stays the same but for what stands there:
`Value.Within` says this of two trees, and is what the proofs about walks carry along.

## Main definitions

* `Value.Within path t u` — the trees differ at most in what stands at `path`.

## Main results

* `Value.put_append` — putting below a place is putting at the place.
* `Value.at?_put_append` — what stands at a place when something is put below it.
* `Value.Within.widen` — what differs at a place differs at most at the places above it.
* `Value.Within.at?_entry`, `Value.Within.at?_item` — two trees that differ at an entry or
  item agree on its siblings.
-/

namespace ConfigTree

/-! ### Entries -/

namespace Entries

variable {α : Type}

instance (es : Entries α) : Decidable es.Unique := inferInstanceAs (Decidable es.keys.Nodup)

@[simp] theorem unique_nil : Unique ([] : Entries α) := List.nodup_nil

theorem alter_congr {es : Entries α} {key : String} {f g : Option α → α}
    (h : f (es.get? key) = g (es.get? key)) : es.alter key f = es.alter key g := by
  induction es with
  | nil => simpa [alter] using h
  | cons e es ih =>
    obtain ⟨k, v⟩ := e
    by_cases hk : k = key
    · simpa [alter, hk, get?_cons] using h
    · simp only [get?_cons, hk, if_false] at h
      simp [alter, hk, ih h]

theorem alter_alter (es : Entries α) (key : String) (f g : Option α → α) :
    (es.alter key f).alter key g = es.alter key fun old => g (some (f old)) := by
  induction es with
  | nil => simp [alter]
  | cons e es ih =>
    obtain ⟨k, v⟩ := e
    by_cases hk : k = key <;> simp [alter, hk, ih]

/-- A new key goes to the end. -/
theorem alter_of_get?_eq_none {es : Entries α} {key : String} (h : es.get? key = none)
    (f : Option α → α) : es.alter key f = es ++ [(key, f none)] := by
  induction es with
  | nil => rfl
  | cons e es ih =>
    obtain ⟨k, v⟩ := e
    by_cases hk : k = key
    · simp [hk] at h
    · simp only [get?_cons, hk, if_false] at h
      simp [alter, hk, ih h]

/-- A change that keeps what stands under the key changes nothing. -/
theorem alter_of_get?_eq_some {es : Entries α} {key : String} {v : α} {f : Option α → α}
    (h : es.get? key = some v) (hf : f (some v) = v) : es.alter key f = es := by
  induction es with
  | nil => cases h
  | cons e es ih =>
    obtain ⟨k, w⟩ := e
    rw [get?_cons] at h
    by_cases hk : k = key
    · obtain rfl : w = v := by simpa [hk] using h
      simp [alter, hk, hf]
    · rw [if_neg hk] at h
      simp [alter, hk, ih h]

theorem get?_eq_none_iff {es : Entries α} {key : String} : es.get? key = none ↔ key ∉ es.keys := by
  rw [mem_keys_iff, has]
  cases es.get? key <;> simp

theorem get?_append (es fs : Entries α) (key : String) :
    Entries.get? (es ++ fs) key = (es.get? key).or (fs.get? key) := by
  induction es with
  | nil => simp
  | cons e es ih =>
    obtain ⟨k, v⟩ := e
    by_cases hk : k = key <;> simp [get?_cons, hk, ih]

theorem get?_erase_of_ne (es : Entries α) {key other : String} (h : key ≠ other) :
    (es.erase key).get? other = es.get? other := by
  induction es with
  | nil => rfl
  | cons e es ih =>
    obtain ⟨k, v⟩ := e
    by_cases hk : k = key
    · subst hk
      simp [erase, get?_cons, h]
    · simp [erase, hk, get?_cons, ih]

end Entries

namespace Value

/-! ### Items -/

@[simp] theorem getElem?_putItem_self : ∀ (xs : List Value) (i : Nat) (f : Value → Value),
    (putItem xs i f)[i]? = some (f (xs[i]?.getD .null))
  | [], 0, f => rfl
  | [], i + 1, f => by simpa [putItem] using getElem?_putItem_self [] i f
  | x :: xs, 0, f => rfl
  | x :: xs, i + 1, f => by simpa [putItem] using getElem?_putItem_self xs i f

theorem getElem?_putItem_of_ne : ∀ {xs : List Value} {i j : Nat} {x : Value}, i ≠ j →
    xs[j]? = some x → ∀ f : Value → Value, (putItem xs i f)[j]? = some x
  | [], i, j, x, _, h, f => by simp at h
  | y :: xs, 0, 0, x, hij, _, f => absurd rfl hij
  | y :: xs, 0, j + 1, x, _, h, f => by simpa [putItem] using h
  | y :: xs, i + 1, 0, x, _, h, f => by simpa [putItem] using h
  | y :: xs, i + 1, j + 1, x, hij, h, f => by
    have hij' : i ≠ j := by omega
    have hj : xs[j]? = some x := by simpa using h
    simpa [putItem] using getElem?_putItem_of_ne hij' hj f

theorem putItem_congr : ∀ {xs : List Value} {i : Nat} {f g : Value → Value},
    f (xs[i]?.getD .null) = g (xs[i]?.getD .null) → putItem xs i f = putItem xs i g
  | [], 0, f, g, h => by simpa [putItem] using h
  | [], i + 1, f, g, h => by
    have hi : f (([] : List Value)[i]?.getD .null) = g (([] : List Value)[i]?.getD .null) := by
      simpa using h
    simpa [putItem] using putItem_congr hi
  | x :: xs, 0, f, g, h => by simpa [putItem] using h
  | x :: xs, i + 1, f, g, h => by
    have hi : f (xs[i]?.getD .null) = g (xs[i]?.getD .null) := by simpa using h
    simpa [putItem] using putItem_congr hi

theorem putItem_putItem : ∀ (xs : List Value) (i : Nat) (f g : Value → Value),
    putItem (putItem xs i f) i g = putItem xs i fun v => g (f v)
  | [], 0, f, g => rfl
  | [], i + 1, f, g => by simpa [putItem] using putItem_putItem [] i f g
  | x :: xs, 0, f, g => rfl
  | x :: xs, i + 1, f, g => by simpa [putItem] using putItem_putItem xs i f g

/-- An item put behind the last is the new last. -/
@[simp] theorem putItem_length : ∀ (xs : List Value) (f : Value → Value),
    putItem xs xs.length f = xs ++ [f .null]
  | [], f => rfl
  | x :: xs, f => by simpa [putItem] using putItem_length xs f

/-- A change that keeps the item changes nothing. -/
theorem putItem_of_getElem? : ∀ {xs : List Value} {i : Nat} {x : Value} {f : Value → Value},
    xs[i]? = some x → f x = x → putItem xs i f = xs
  | [], i, x, f, h, _ => by simp at h
  | y :: xs, 0, x, f, h, hf => by
    obtain rfl : y = x := by simpa using h
    rw [putItem, hf]
  | y :: xs, i + 1, x, f, h, hf => by
    have hi : xs[i]? = some x := by simpa using h
    rw [putItem, putItem_of_getElem? hi hf]

/-! ### Looking -/

theorem at?_cons (t : Value) (s : Step) (rest : TreePath) :
    t.at? (s :: rest) = (t.step? s).bind (·.at? rest) := by
  cases s <;> cases t <;> simp [at?]

theorem at?_append (t : Value) (p q : TreePath) :
    t.at? (p ++ q) = (t.at? p).bind (·.at? q) := by
  induction p generalizing t with
  | nil => rw [List.nil_append, at?_nil, Option.bind_some]
  | cons s p ih =>
    rw [List.cons_append, at?_cons, at?_cons, Option.bind_assoc]
    simp only [ih]

@[simp] theorem at?_singleton (t : Value) (s : Step) : t.at? [s] = t.step? s := by
  rw [at?_cons]
  simp

theorem at?_entry (t : Value) (p : TreePath) (k : String) :
    t.at? (p.entry k) = (t.at? p).bind (·.step? (.key k)) := by
  simp only [TreePath.entry, at?_append, at?_singleton]

theorem at?_item (t : Value) (p : TreePath) (i : Nat) :
    t.at? (p.item i) = (t.at? p).bind (·.step? (.index i)) := by
  simp only [TreePath.item, at?_append, at?_singleton]

@[simp] theorem getD_at?_null (p : TreePath) : (Value.null.at? p).getD .null = .null := by
  cases p with
  | nil => rfl
  | cons s p => cases s <;> rfl

/-! ### Putting -/

/-- What is put at a place is found there. -/
@[simp] theorem at?_put_self (t : Value) (p : TreePath) (v : Value) :
    (t.put p v).at? p = some v := by
  induction p generalizing t with
  | nil => simp
  | cons s p ih =>
    cases s with
    | key k => cases t <;> simp [put, ih]
    | index i => cases t <;> simp [put, ih]

/-- **Putting below a place is putting at the place.** -/
theorem put_append (t : Value) (p q : TreePath) (v : Value) :
    t.put (p ++ q) v = t.put p (((t.at? p).getD .null).put q v) := by
  induction p generalizing t with
  | nil => simp
  | cons s p ih =>
    cases s with
    | key k =>
      cases t with
      | map es =>
        simp only [List.cons_append, put_map_key, at?_map_key]
        congr 1
        -- the two changes need to agree on what stands under the key only
        refine Entries.alter_congr ?_
        cases Entries.get? es k with
        | none => simp [ih]
        | some w => simp [ih]
      | _ => simp [put, at?, ih]
    | index i =>
      cases t with
      | list xs =>
        simp only [List.cons_append, put_list_index, at?_list_index]
        congr 1
        refine putItem_congr ?_
        cases xs[i]? with
        | none => simp [ih]
        | some w => simp [ih]
      | _ =>
        simp only [List.cons_append, put, at?, Option.getD_none]
        congr 1
        refine putItem_congr ?_
        simp [ih]

/-- A second thing put at a place replaces the first. -/
@[simp] theorem put_put (t : Value) (p : TreePath) (v w : Value) :
    (t.put p v).put p w = t.put p w := by
  induction p generalizing t with
  | nil => simp
  | cons s p ih =>
    cases s with
    | key k => cases t <;> simp [put, Entries.alter, Entries.alter_alter, ih]
    | index i => cases t <;> simp [put, putItem_putItem, ih]

/-- What stands at a place already can be put there without a change. -/
theorem put_of_at? {t v : Value} {p : TreePath} (h : t.at? p = some v) : t.put p v = t := by
  induction p generalizing t with
  | nil =>
    rw [at?_nil] at h
    rw [put_nil, Option.some.inj h]
  | cons s p ih =>
    -- only a mapping has something behind a key, and only a list behind an index
    cases t <;> cases s <;> try cases h
    · next xs i =>
      obtain ⟨x, hx, hp⟩ := Option.bind_eq_some_iff.mp h
      rw [put_list_index, putItem_of_getElem? hx (ih hp)]
    · next es k =>
      obtain ⟨w, hw, hp⟩ := Option.bind_eq_some_iff.mp h
      rw [put_map_key, Entries.alter_of_get?_eq_some hw (ih hp)]

/-- What stands at a place when something is put below it. -/
theorem at?_put_append (t : Value) (p q : TreePath) (v : Value) :
    (t.put (p ++ q) v).at? p = some (((t.at? p).getD .null).put q v) := by
  rw [put_append, at?_put_self]

/-- What is put below a place where something was put just before. -/
theorem put_put_append (t : Value) (p q : TreePath) (v w : Value) :
    (t.put p v).put (p ++ q) w = t.put p (v.put q w) := by
  rw [put_append, at?_put_self, Option.getD_some, put_put]

/-- A new entry of a mapping that was put somewhere. -/
theorem put_put_entry (t : Value) (p : TreePath) {es : Mapping} {k : String}
    (hk : k ∉ es.keys) (v : Value) :
    (t.put p (.map es)).put (p.entry k) v = t.put p (.map (es ++ [(k, v)])) := by
  rw [TreePath.entry, put_put_append, put_map_key,
    Entries.alter_of_get?_eq_none (Entries.get?_eq_none_iff.mpr hk), put_nil]

/-- One more item of a list that was put somewhere. -/
theorem put_put_item (t : Value) (p : TreePath) (xs : List Value) (v : Value) :
    (t.put p (.list xs)).put (p.item xs.length) v = t.put p (.list (xs ++ [v])) := by
  rw [TreePath.item, put_put_append, put_list_index, putItem_length, put_nil]

/-! ### Trees that differ at one place -/

/-- The second tree is the first but for what stands at a place. -/
def Within (path : TreePath) (t u : Value) : Prop := u = t ∨ ∃ v, u = t.put path v

namespace Within

variable {path : TreePath} {t u v : Value}

theorem refl (path : TreePath) (t : Value) : Within path t t := Or.inl rfl

theorem trans (htu : Within path t u) (huv : Within path u v) : Within path t v := by
  rcases huv with rfl | ⟨x, rfl⟩
  · exact htu
  · rcases htu with rfl | ⟨y, rfl⟩
    · exact Or.inr ⟨x, rfl⟩
    · exact Or.inr ⟨x, by rw [put_put]⟩

theorem put_self (path : TreePath) (t v : Value) : Within path t (t.put path v) := Or.inr ⟨v, rfl⟩

theorem put (path rest : TreePath) (t v : Value) : Within path t (t.put (path ++ rest) v) :=
  Or.inr ⟨_, put_append t path rest v⟩

/-- Trees that differ at a place are the same once the same is put there. -/
theorem put_eq (h : Within path t u) (v : Value) : u.put path v = t.put path v := by
  rcases h with rfl | ⟨x, rfl⟩
  · rfl
  · exact put_put t path x v

/-- What differs at a place differs at most at the places above it. -/
theorem widen {rest : TreePath} (h : Within (path ++ rest) t u) : Within path t u := by
  rcases h with rfl | ⟨x, rfl⟩
  · exact refl path u
  · exact put path rest t x

theorem openMap (path : TreePath) (t : Value) : Within path t (t.openMap path) := by
  unfold Value.openMap
  split
  · exact refl path t
  · exact Or.inr ⟨_, rfl⟩

theorem overlayAt (path : TreePath) (t : Value) (entries : Mapping) :
    Within path t (t.overlayAt path entries) := by
  unfold Value.overlayAt
  split <;> exact Or.inr ⟨_, rfl⟩

theorem forget (path : TreePath) (t : Value) (key : String) :
    Within path t (t.forget path key) := by
  unfold Value.forget
  split
  · exact Or.inr ⟨_, rfl⟩
  · exact refl path t

/-- Trees that differ at an entry of a mapping have its other entries in common. -/
theorem map {key : String} (h : Within (path.entry key) t u) {es : List (String × Value)}
    (ht : t.at? path = some (.map es)) :
    ∃ fs, u.at? path = some (.map fs) ∧
      ∀ other, other ≠ key → Entries.get? fs other = Entries.get? es other := by
  rcases h with rfl | ⟨x, rfl⟩
  · exact ⟨es, ht, fun _ _ => rfl⟩
  · refine ⟨Entries.alter es key fun _ => x, ?_, fun other hne => ?_⟩
    · simp [TreePath.entry, at?_put_append, ht]
    · exact Entries.get?_alter_of_ne es (Ne.symm hne) _

/-- Trees that differ at an item of a list have its other items in common. -/
theorem list {i : Nat} (h : Within (path.item i) t u) {xs : List Value}
    (ht : t.at? path = some (.list xs)) :
    ∃ ys, u.at? path = some (.list ys) ∧
      ∀ j x, j ≠ i → xs[j]? = some x → ys[j]? = some x := by
  rcases h with rfl | ⟨x, rfl⟩
  · exact ⟨xs, ht, fun _ _ _ hx => hx⟩
  · refine ⟨putItem xs i fun _ => x, ?_, fun j y hne hy => ?_⟩
    · simp [TreePath.item, at?_put_append, ht]
    · exact getElem?_putItem_of_ne (Ne.symm hne) hy _

theorem at?_entry {key other : String} (h : Within (path.entry key) t u) (hne : other ≠ key)
    {w : Value} (ht : t.at? (path.entry other) = some w) : u.at? (path.entry other) = some w := by
  rw [Value.at?_entry, Option.bind_eq_some_iff] at ht
  obtain ⟨x, hx, hw⟩ := ht
  cases x with
  | map es =>
    obtain ⟨fs, hfs, hkeep⟩ := h.map hx
    rw [Value.at?_entry, hfs, Option.bind_some]
    exact (hkeep other hne).trans hw
  | _ => simp at hw

theorem at?_item {i j : Nat} (h : Within (path.item i) t u) (hne : j ≠ i) {w : Value}
    (ht : t.at? (path.item j) = some w) : u.at? (path.item j) = some w := by
  rw [Value.at?_item, Option.bind_eq_some_iff] at ht
  obtain ⟨x, hx, hw⟩ := ht
  cases x with
  | list xs =>
    obtain ⟨ys, hys, hkeep⟩ := h.list hx
    rw [Value.at?_item, hys, Option.bind_some]
    exact hkeep j w hne hw
  | _ => simp at hw

/-- All trees differ at most at the root. -/
theorem root (t u : Value) : Within [] t u := Or.inr ⟨u, (put_nil t u).symm⟩

end Within

end Value

end ConfigTree
