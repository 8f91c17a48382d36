import ConfigTree.Proofs.Tree.Update

/-!
# What a put changes, and what it leaves

A put writes to one place.  What is put is found there and below.  Of two places of which neither
lies at or below the other, a put at the first leaves what stands at the second, as long as
everything on the way to the first is of the kind that the next step goes into: a mapping for a
key, a list for an index.  What is of another kind gives way, and with it all that it holds.

Nothing new comes up beside the place, except that a list that is too short is filled up with
absent values.  So each container on the way keeps its other entries or items, in their order: a
mapping gets at most the one entry that it lacks, behind the others, and a list at most the items
up to the one that is written.

## Main definitions

* `TreePath.Apart` — neither of two places lies at or below the other.
* `TreePath.Fills` — a put at the one place may fill up the other.
* `Value.Admits` — what a tree holds on the way to a place is of the kind that is needed.

## Main results

* `Value.at?_put_map`, `Value.at?_put_list` — what a container on the way becomes.
* `Value.at?_put_of_apart` — what stands elsewhere stays.
* `Value.at?_of_at?_put` — what stands elsewhere stood there before.
* `put_frame` — all of this.
-/

namespace ConfigTree

/-! ### Places that part -/

/-- Whether a step goes into a value as it is: a key into a mapping, an index into a list. -/
def Step.Enters : Step → Value → Prop
  | .key _, v => v.isMap = true
  | .index _, v => v.list?.isSome = true

namespace TreePath

/-- Neither of two places lies at or below the other. -/
def Apart (p q : TreePath) : Prop := ¬ p <+: q ∧ ¬ q <+: p

/-- The place `q` is an item of a list that `p` goes through, before the one that `p` goes into. -/
def Fills (p q : TreePath) : Prop :=
  ∃ above i rest j, p = above ++ .index i :: rest ∧ q = above ++ [.index j] ∧ j < i

/-- Places that are apart have a way in common, and then part. -/
theorem Apart.exists_parting {p q : TreePath} (h : Apart p q) :
    ∃ above s rest s' rest', p = above ++ s :: rest ∧ q = above ++ s' :: rest' ∧ s ≠ s' := by
  induction p generalizing q with
  | nil => exact absurd List.nil_prefix h.1
  | cons s p ih =>
    cases q with
    | nil => exact absurd List.nil_prefix h.2
    | cons s' q =>
      -- one step in common, or they part here
      by_cases hs : s = s'
      · subst hs
        have hbelow : Apart p q :=
          ⟨fun hp => h.1 (List.cons_prefix_cons.mpr ⟨rfl, hp⟩),
            fun hq => h.2 (List.cons_prefix_cons.mpr ⟨rfl, hq⟩)⟩
        obtain ⟨above, t, rest, t', rest', rfl, rfl, hne⟩ := ih hbelow
        exact ⟨s :: above, t, rest, t', rest', rfl, rfl, hne⟩
      · exact ⟨[], s, p, s', q, rfl, rfl, hs⟩

end TreePath

namespace Value

/-- What a tree holds on the way to a place, itself included, is of the kind that the next step
goes into. -/
def Admits (t : Value) (p : TreePath) : Prop :=
  ∀ above step rest, p = above ++ step :: rest → ∀ w, t.at? above = some w → step.Enters w

theorem admits_cons {t : Value} {s : Step} {p : TreePath} :
    t.Admits (s :: p) ↔ s.Enters t ∧ ∀ w, t.step? s = some w → w.Admits p := by
  constructor
  · intro h
    refine ⟨h [] s p rfl t (at?_nil t), ?_⟩
    rintro w hw above step rest rfl u hu
    refine h (s :: above) step rest rfl u ?_
    rw [at?_cons, hw]
    exact hu
  · rintro ⟨henters, hbelow⟩ above step rest h w hw
    -- the next step goes into the tree itself, or into something below its first step
    cases above with
    | nil =>
      obtain ⟨rfl, rfl⟩ := List.cons.inj h
      obtain rfl : t = w := by simpa using hw
      exact henters
    | cons s' above =>
      obtain ⟨rfl, rfl⟩ := List.cons.inj h
      rw [at?_cons, Option.bind_eq_some_iff] at hw
      obtain ⟨u, hu, hw⟩ := hw
      exact hbelow u hu above step rest rfl w hw

/-- What the next index is looked up in: the items of a list, and of anything else, or of nothing,
none. -/
def itemsOf (old : Option Value) : List Value := (old.bind list?).getD []

end Value

/-! ### Containers on the way -/

/-- An entry that is there is changed where it is. -/
theorem Entries.alter_append_cons {α : Type} {front : Entries α} {key : String}
    (h : key ∉ front.keys) (old : α) (back : Entries α) (f : Option α → α) :
    Entries.alter (front ++ (key, old) :: back) key f = front ++ (key, f (some old)) :: back := by
  induction front with
  | nil => simp [alter]
  | cons e front ih =>
    obtain ⟨k, v⟩ := e
    rw [keys_cons, List.mem_cons, not_or] at h
    rw [List.cons_append, alter, if_neg (Ne.symm h.1), ih h.2, List.cons_append]

namespace Value

/-- A list is filled up to the item, and the item written. -/
theorem putItem_eq_set : ∀ (xs : List Value) (i : Nat) (f : Value → Value),
    putItem xs i f
      = (xs ++ List.replicate (i + 1 - xs.length) Value.null).set i (f (xs[i]?.getD .null))
  | [], 0, f => rfl
  | [], i + 1, f => by
    rw [putItem, putItem_eq_set [] i f]
    simp [List.replicate_succ]
  | x :: xs, 0, f => by simp [putItem]
  | x :: xs, i + 1, f => by
    rw [putItem, putItem_eq_set xs i f]
    simp

/-- The other items of a list were there before, or it is filled up with them. -/
theorem getElem?_of_getElem?_putItem {xs : List Value} {i j : Nat} (hne : i ≠ j)
    {f : Value → Value} {x : Value} (h : (putItem xs i f)[j]? = some x) :
    xs[j]? = some x ∨ x = .null ∧ j < i := by
  rw [putItem_eq_set, List.getElem?_set_ne hne] at h
  -- the item was there, or the list was filled up with it
  rcases Nat.lt_or_ge j xs.length with hj | hj
  · rw [List.getElem?_append_left hj] at h
    exact Or.inl h
  · rw [List.getElem?_append_right hj, List.getElem?_replicate] at h
    split at h
    · exact Or.inr ⟨(Option.some.inj h).symm, by omega⟩
    · cases h

theorem at?_key (t : Value) (key : String) (rest : TreePath) :
    t.at? (.key key :: rest) = (Entries.get? (entriesOf (some t)) key).bind (·.at? rest) := by
  cases t <;> rfl

theorem at?_index (t : Value) (i : Nat) (rest : TreePath) :
    t.at? (.index i :: rest) = (itemsOf (some t))[i]?.bind (·.at? rest) := by
  cases t <;> rfl

theorem put_key (t : Value) (key : String) (rest : TreePath) (v : Value) :
    t.put (.key key :: rest) v
      = .map (Entries.alter (entriesOf (some t)) key fun old => (old.getD .null).put rest v) :=
  put_eq_put_map (some t) key rest v

theorem put_index (t : Value) (i : Nat) (rest : TreePath) (v : Value) :
    t.put (.index i :: rest) v
      = .list (putItem (itemsOf (some t)) i fun old => old.put rest v) := by
  cases t <;> rfl

theorem entriesOf_getD (old : Option Value) :
    entriesOf (some (old.getD .null)) = entriesOf old := by
  cases old <;> rfl

theorem itemsOf_getD (old : Option Value) : itemsOf (some (old.getD .null)) = itemsOf old := by
  cases old <;> rfl

/-- **A mapping on the way**: its entry under the key is written, or a new one behind the others. -/
theorem at?_put_map (t v : Value) (above rest : TreePath) (key : String) :
    (t.put (above ++ .key key :: rest) v).at? above
      = some (.map (Entries.alter (entriesOf (t.at? above)) key
          fun old => (old.getD .null).put rest v)) := by
  rw [at?_put_append, put_key, entriesOf_getD]

/-- **A list on the way**: it is filled up to the item, and the item is written. -/
theorem at?_put_list (t v : Value) (above rest : TreePath) (i : Nat) :
    (t.put (above ++ .index i :: rest) v).at? above
      = some (.list (putItem (itemsOf (t.at? above)) i fun old => old.put rest v)) := by
  rw [at?_put_append, put_index, itemsOf_getD]

/-! ### Places apart -/

section Apart

variable {t v w : Value} {rest rest' : TreePath} {s s' : Step}

/-- What stands behind a step stays when something is put behind another step. -/
theorem at?_put_cons_of_ne (hne : s ≠ s') (hs : s.Enters t) (h : t.at? (s' :: rest') = some w) :
    (t.put (s :: rest) v).at? (s' :: rest') = some w := by
  cases s with
  | key k =>
    -- a mapping has nothing at an index, and its other keys are left alone
    obtain ⟨es, rfl⟩ := isMap_iff.mp hs
    cases s' with
    | index j => cases h
    | key k' =>
      have hk : k ≠ k' := fun heq => hne (congrArg Step.key heq)
      rwa [put_map_key, at?_map_key, Entries.get?_alter_of_ne es hk, ← at?_map_key]
  | index i =>
    obtain ⟨xs, hxs⟩ := Option.isSome_iff_exists.mp hs
    cases t with
    | list items =>
      cases s' with
      | key k' => cases h
      | index j =>
        have hi : i ≠ j := fun heq => hne (congrArg Step.index heq)
        obtain ⟨x, hx, hw⟩ := Option.bind_eq_some_iff.mp h
        rw [put_list_index, at?_list_index, getElem?_putItem_of_ne hi hx]
        exact hw
    | _ => cases hxs

/-- What stands behind a step after something is put behind another was there before, or is what
a list is filled up with. -/
theorem at?_cons_of_at?_put (hne : s ≠ s') (h : (t.put (s :: rest) v).at? (s' :: rest') = some w) :
    t.at? (s' :: rest') = some w
      ∨ w = .null ∧ rest' = [] ∧ ∃ i j, s = .index i ∧ s' = .index j ∧ j < i := by
  cases s with
  | key k =>
    rw [put_key] at h
    cases s' with
    | index j => cases h
    | key k' =>
      have hk : k ≠ k' := fun heq => hne (congrArg Step.key heq)
      rw [at?_map_key, Entries.get?_alter_of_ne _ hk, ← at?_key] at h
      exact Or.inl h
  | index i =>
    rw [put_index] at h
    cases s' with
    | key k' => cases h
    | index j =>
      have hi : i ≠ j := fun heq => hne (congrArg Step.index heq)
      obtain ⟨x, hx, hw⟩ := Option.bind_eq_some_iff.mp h
      rcases getElem?_of_getElem?_putItem hi hx with hold | ⟨rfl, hlt⟩
      · rw [at?_index, hold]
        exact Or.inl hw
      · -- nothing is below an absent value
        cases rest' with
        | nil => exact Or.inr ⟨(Option.some.inj hw).symm, rfl, i, j, rfl, rfl, hlt⟩
        | cons step below => cases step <;> cases hw

variable {p q : TreePath}

/-- **What stands elsewhere stays.** -/
theorem at?_put_of_apart (hp : t.Admits p) (hpq : p.Apart q) (h : t.at? q = some w) :
    (t.put p v).at? q = some w := by
  -- where they part stands one container, which the tree admits, so it is not replaced
  obtain ⟨above, s, rest, s', rest', rfl, rfl, hne⟩ := hpq.exists_parting
  rw [at?_append, Option.bind_eq_some_iff] at h
  obtain ⟨c, hc, hw⟩ := h
  rw [at?_append, at?_put_append, hc, Option.bind_some, Option.getD_some]
  exact at?_put_cons_of_ne hne (hp above s rest rfl c hc) hw

/-- **What stands elsewhere stood there before**, or a list is filled up with it. -/
theorem at?_of_at?_put (hpq : p.Apart q) (h : (t.put p v).at? q = some w) :
    t.at? q = some w ∨ w = .null ∧ p.Fills q := by
  obtain ⟨above, s, rest, s', rest', rfl, rfl, hne⟩ := hpq.exists_parting
  rw [at?_append, at?_put_append, Option.bind_some] at h
  rcases at?_cons_of_at?_put hne h with hold | ⟨rfl, rfl, i, j, rfl, rfl, hlt⟩
  · rw [at?_append]
    cases hc : t.at? above with
    | some c =>
      rw [hc] at hold
      exact Or.inl hold
    | none =>
      rw [hc] at hold
      -- there was nothing on the way, and nothing is below that
      cases s' <;> cases hold
  · exact Or.inr ⟨rfl, above, i, rest, j, rfl, rfl, hlt⟩

end Apart

end Value

/-- **What a put changes, and what it leaves.**  What is put stands at the place, and below it what
that holds.  What stands at a place apart stays, if the tree admits the place as it is; and what
stands there afterwards was there before, but for the absent values that a list is filled up with.

Of a mapping on the way the one entry is written where it is, or behind the others if it lacks the
key; of a list the one item, after it is filled up to that.  To put back what stands at the place
changes nothing. -/
theorem put_frame (t v : Value) (p : TreePath) :
    (t.put p v).at? p = some v
    ∧ (∀ rest, (t.put p v).at? (p ++ rest) = v.at? rest)
    ∧ (∀ q w, p.Apart q →
        (t.Admits p → t.at? q = some w → (t.put p v).at? q = some w)
        ∧ ((t.put p v).at? q = some w → t.at? q = some w ∨ w = .null ∧ p.Fills q))
    ∧ (∀ above key rest, p = above ++ .key key :: rest →
        let es := Value.entriesOf (t.at? above)
        (key ∉ Entries.keys es →
          (t.put p v).at? above = some (.map (es ++ [(key, Value.null.put rest v)])))
        ∧ ∀ front old back, es = front ++ (key, old) :: back → key ∉ Entries.keys front →
          (t.put p v).at? above = some (.map (front ++ (key, old.put rest v) :: back)))
    ∧ (∀ above i rest, p = above ++ .index i :: rest →
        let xs := Value.itemsOf (t.at? above)
        (t.put p v).at? above
          = some (.list ((xs ++ List.replicate (i + 1 - xs.length) Value.null).set i
              ((xs[i]?.getD .null).put rest v))))
    ∧ (∀ w, t.at? p = some w → t.put p w = t) := by
  refine ⟨Value.at?_put_self t p v, fun rest => ?_, fun q w hpq => ?_, ?_, ?_,
    fun w => Value.put_of_at?⟩
  · rw [Value.at?_append, Value.at?_put_self, Option.bind_some]
  · exact ⟨fun hp => Value.at?_put_of_apart hp hpq, Value.at?_of_at?_put hpq⟩
  · rintro above key rest rfl es
    constructor
    -- a new key comes behind the others, one that is there stays in its place
    · intro hnew
      rw [Value.at?_put_map, Entries.alter_of_get?_eq_none (Entries.get?_eq_none_iff.mpr hnew)]
      rfl
    · intro front old back hes hfront
      have hentries : Value.entriesOf (t.at? above) = front ++ (key, old) :: back := hes
      rw [Value.at?_put_map, hentries, Entries.alter_append_cons hfront]
      rfl
  · rintro above i rest rfl xs
    rw [Value.at?_put_list, Value.putItem_eq_set]

/-- A list is filled up, and what stands beside the list and in it stays. -/
theorem put_frame_of_list :
    let t : Value := .map [("a", .list [.bool true]), ("b", .str "s")]
    let p : TreePath := [.key "a", .index 2, .key "x"]
    let u := t.put p (.list [.null])
    t.Admits p ∧ p.Apart [.key "b"] ∧ p.Apart [.key "a", .index 0]
      ∧ u.at? [.key "b"] = some (.str "s")
      ∧ u.at? [.key "a", .index 0] = some (.bool true)
      ∧ u.at? [.key "a", .index 2, .key "x", .index 0] = some .null
      ∧ u.at? [.key "a"]
        = some (.list [.bool true, .null, .map [("x", .list [.null])]])
      ∧ u.put p (.list [.null]) = u := by
  intro t p u
  have hadmits : t.Admits p := by
    simp only [p, Value.admits_cons]
    refine ⟨rfl, fun w hw => ?_⟩
    obtain rfl : Value.list [.bool true] = w := Option.some.inj hw
    refine ⟨rfl, fun w hw => ?_⟩
    cases hw
  have hb : p.Apart [.key "b"] := by unfold TreePath.Apart; decide
  have ha : p.Apart [.key "a", .index 0] := by unfold TreePath.Apart; decide
  obtain ⟨hself, hbelow, hapart, -, hlist, -⟩ := put_frame t (.list [.null]) p
  -- putting back what was put
  obtain ⟨-, -, -, -, -, hback⟩ := put_frame u (.list [.null]) p
  refine ⟨hadmits, hb, ha, ?_, ?_, ?_, ?_, ?_⟩
  · exact (hapart [.key "b"] (.str "s") hb).1 hadmits rfl
  · exact (hapart [.key "a", .index 0] (.bool true) ha).1 hadmits rfl
  · exact hbelow [.index 0]
  · exact hlist [.key "a"] 2 [.key "x"] rfl
  · exact hback (.list [.null]) hself

end ConfigTree
