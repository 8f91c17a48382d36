import ConfigTree.Proofs.Tree.Place

/-!
# The texts of a tree, and what stands before them

The nodes of a tree have an order, in which they are resolved: that of the document.  A
tree can be cut off before one of its places; the containers around the place are then
left with their earlier entries or items.

## Main definitions

* `Leaf`, `Value.leaves` — the texts of a tree in document order, with their places.
* `Value.before` — a tree cut off before a place; `Value.grown` — a tree with such a one at a
  place of its own.
* `Value.SameShape` — a tree has the keys, lengths and scalars of another but for its
  texts.
* `Value.EveryMap` — what holds of every mapping in a tree; `Value.checkMaps` — a check for it.

## Main results

* `Value.mem_leaves_iff` — the leaves are all the texts.
* `Value.grown_entry`, `Value.grown_item` — a tree that grows from top to bottom, cut off.
-/

namespace ConfigTree

/-! ### Entries -/

theorem Entries.get?_of_mem {α : Type} {es : Entries α} (hu : es.Unique) {k : String} {v : α}
    (h : (k, v) ∈ es) : es.get? k = some v := by
  induction es with
  | nil => simp at h
  | cons e es ih =>
    obtain ⟨k', v'⟩ := e
    obtain ⟨hk', hes⟩ := List.nodup_cons.mp hu
    rcases List.mem_cons.mp h with heq | hmem
    · obtain ⟨rfl, rfl⟩ := Prod.mk.inj heq
      simp
    · have hk : k ∈ Entries.keys es := List.mem_map_of_mem (f := Prod.fst) hmem
      have hne : k' ≠ k := fun heq => hk' (heq ▸ hk)
      rw [Entries.get?_cons, if_neg hne]
      exact ih hes hmem

/-- An entry whose key does not occur before it is found. -/
theorem Entries.get?_append_cons {α : Type} {es : Entries α} {k : String} (hk : k ∉ es.keys)
    (v : α) (fs : Entries α) : Entries.get? (es ++ (k, v) :: fs) k = some v := by
  rw [Entries.get?_append, Entries.get?_eq_none_iff.mpr hk, Option.none_or, Entries.get?_cons_self]

/-- Of unique keys, none occurs before its place. -/
theorem Entries.Unique.not_mem_keys {α : Type} {es fs : Entries α} {k : String} {v : α}
    (h : Entries.Unique (es ++ (k, v) :: fs)) : k ∉ es.keys := by
  have hnodup : (es.keys ++ k :: Entries.keys fs).Nodup := by
    simpa [Entries.Unique, Entries.keys] using h
  exact fun hk => (List.nodup_append.mp hnodup).2.2 k hk k List.mem_cons_self rfl

theorem Entries.Unique.not_mem_keys_after {α : Type} {es fs : Entries α} {k : String} {v : α}
    (h : Entries.Unique (es ++ (k, v) :: fs)) : k ∉ Entries.keys fs := by
  have hnodup : (es.keys ++ k :: Entries.keys fs).Nodup := by
    simpa [Entries.Unique, Entries.keys] using h
  exact (List.nodup_cons.mp (List.nodup_append.mp hnodup).2.1).1

theorem Entries.Unique.shift {α : Type} {es fs : Entries α} {k : String} {v : α}
    (h : Entries.Unique (es ++ (k, v) :: fs)) (w : α) :
    Entries.Unique ((es ++ [(k, w)]) ++ fs) := by
  simpa [Entries.Unique, Entries.keys] using h

/-! ### Mappings in a tree -/

namespace Value

/-- What holds of every mapping in a tree. -/
def EveryMap (P : Mapping → Prop) (v : Value) : Prop :=
  ∀ place es, v.at? place = some (.map es) → P es

namespace EveryMap

variable {P : Mapping → Prop} {es : List (String × Value)} {xs : List Value}

theorem self (h : EveryMap P (.map es)) : P es := h [] es rfl

theorem entry (h : EveryMap P (.map es)) {k : String} {v : Value}
    (hv : Entries.get? es k = some v) : EveryMap P v := by
  intro place fs hfs
  refine h (.key k :: place) fs ?_
  rw [at?_map_key, hv]
  exact hfs

theorem of_entries (h : P es) (hs : ∀ e ∈ es, EveryMap P e.2) : EveryMap P (.map es) := by
  intro place fs hfs
  cases place with
  | nil =>
    obtain rfl : es = fs := by simpa using hfs
    exact h
  | cons s place =>
    cases s with
    | index i => simp [at?] at hfs
    | key k =>
      rw [at?_map_key, Option.bind_eq_some_iff] at hfs
      obtain ⟨v, hv, hfs⟩ := hfs
      exact hs (k, v) (Entries.mem_of_get? hv) place fs hfs

theorem of_items (hs : ∀ v ∈ xs, EveryMap P v) : EveryMap P (.list xs) := by
  intro place fs hfs
  cases place with
  | nil => simp at hfs
  | cons s place =>
    cases s with
    | key k => simp [at?] at hfs
    | index i =>
      rw [at?_list_index, Option.bind_eq_some_iff] at hfs
      obtain ⟨v, hv, hfs⟩ := hfs
      exact hs v (List.mem_of_getElem? hv) place fs hfs

/-- There are no mappings in a scalar. -/
theorem of_scalar {v : Value} (hm : v.isMap = false) (hl : v.list? = none) : EveryMap P v := by
  intro place fs hfs
  cases v with
  | map | list => contradiction
  | _ => cases place <;> simp [at?] at hfs

theorem item (h : EveryMap P (.list xs)) {v : Value} (hv : v ∈ xs) : EveryMap P v := by
  intro place fs hfs
  obtain ⟨i, hi⟩ := List.mem_iff_getElem?.mp hv
  refine h (.index i :: place) fs ?_
  rw [at?_list_index, hi]
  exact hfs

end EveryMap

section Check

variable (P : Mapping → Prop) [DecidablePred P]

mutual

/-- Whether something holds of every mapping in a tree, those included that stand behind another
of the same key. -/
def checkMaps (v : Value) : Bool :=
  match v with
  | .map entries => decide (P entries) && checkEntries entries
  | .list items => checkItems items
  | _ => true
termination_by structural v

/-- Whether it holds of every mapping in the items. -/
def checkItems (items : List Value) : Bool :=
  match items with
  | [] => true
  | v :: rest => checkMaps v && checkItems rest
termination_by structural items

/-- Whether it holds of every mapping in the values of the entries. -/
def checkEntries (entries : List (String × Value)) : Bool :=
  match entries with
  | [] => true
  | (_, v) :: rest => checkMaps v && checkEntries rest
termination_by structural entries

end

variable {P}

mutual

theorem everyMap_of_checkMaps : ∀ {v : Value}, v.checkMaps P = true → EveryMap P v
  | .map entries, h => by
    rw [checkMaps, Bool.and_eq_true, decide_eq_true_eq] at h
    exact .of_entries h.1 (everyMap_of_checkEntries h.2)
  | .list items, h => .of_items (everyMap_of_checkItems h)
  | .null, _ | .bool _, _ | .int _, _ | .float _, _ | .str _, _ => .of_scalar rfl rfl

theorem everyMap_of_checkItems : ∀ {items : List Value}, checkItems P items = true →
    ∀ v ∈ items, EveryMap P v
  | [], _ => List.forall_mem_nil _
  | v :: rest, h => by
    rw [checkItems, Bool.and_eq_true] at h
    exact List.forall_mem_cons.mpr ⟨everyMap_of_checkMaps h.1, everyMap_of_checkItems h.2⟩

theorem everyMap_of_checkEntries : ∀ {entries : List (String × Value)},
    checkEntries P entries = true → ∀ e ∈ entries, EveryMap P e.2
  | [], _ => List.forall_mem_nil _
  | (k, v) :: rest, h => by
    rw [checkEntries, Bool.and_eq_true] at h
    exact List.forall_mem_cons.mpr ⟨everyMap_of_checkMaps h.1, everyMap_of_checkEntries h.2⟩

end

end Check

end Value

/-! ### Leaves -/

/-- A text with its place. -/
structure Leaf where
  /-- The place. -/
  place : TreePath
  /-- The text. -/
  source : String

/-- The leaf seen from one step further up. -/
def Leaf.under (s : Step) (leaf : Leaf) : Leaf := ⟨s :: leaf.place, leaf.source⟩

namespace Value

mutual

/-- The texts of a tree in document order. -/
def leaves (v : Value) : List Leaf :=
  match v with
  | .str source => [⟨[], source⟩]
  | .list items => itemLeaves items 0
  | .map entries => entryLeaves entries
  | _ => []
termination_by structural v

/-- The texts of items, the first of them at position `i`. -/
def itemLeaves (items : List Value) (i : Nat) : List Leaf :=
  match items with
  | [] => []
  | v :: rest => (leaves v).map (Leaf.under (.index i)) ++ itemLeaves rest (i + 1)
termination_by structural items

/-- The texts of entries. -/
def entryLeaves (entries : List (String × Value)) : List Leaf :=
  match entries with
  | [] => []
  | (k, v) :: rest => (leaves v).map (Leaf.under (.key k)) ++ entryLeaves rest
termination_by structural entries

end

mutual

/-- The second tree has the keys, lengths and scalars of the first; what stands in it for a text
does not matter. -/
def SameShape (v w : Value) : Prop :=
  match v with
  | .str _ => True
  | .list xs => ∃ ys, w = .list ys ∧ SameItems xs ys
  | .map es => ∃ fs, w = .map fs ∧ SameEntries es fs
  | v => w = v
termination_by structural v

/-- Lists of equal length, with items of the same shape. -/
def SameItems (xs ys : List Value) : Prop :=
  match xs with
  | [] => ys = []
  | x :: xs => ∃ y rest, ys = y :: rest ∧ SameShape x y ∧ SameItems xs rest
termination_by structural xs

/-- Mappings with the same keys in the same order, with values of the same shape. -/
def SameEntries (es fs : List (String × Value)) : Prop :=
  match es with
  | [] => fs = []
  | (k, v) :: es => ∃ w rest, fs = (k, w) :: rest ∧ SameShape v w ∧ SameEntries es rest
termination_by structural es

end

/-! ### The leaves are all the texts -/

mutual

/-- **The leaves of a tree are all the texts in it.** -/
theorem mem_leaves_iff : ∀ {v : Value}, EveryMap Entries.Unique v → ∀ leaf : Leaf,
    leaf ∈ v.leaves ↔ v.at? leaf.place = some (.str leaf.source)
  | .str source, _, ⟨place, source'⟩ => by
    cases place with
    | nil => simp [leaves, eq_comm]
    | cons s place => cases s <;> simp [leaves, at?]
  | .list items, h, ⟨place, source⟩ => by
    rw [leaves, mem_itemLeaves_iff (fun v hv => h.item hv)]
    constructor
    · rintro ⟨j, rest, rfl, hj⟩
      simpa using hj
    · intro hat
      cases place with
      | nil => simp at hat
      | cons s rest =>
        cases s with
        | key k => simp [at?] at hat
        | index j => exact ⟨j, rest, by simp, hat⟩
  | .map entries, h, ⟨place, source⟩ => by
    rw [leaves, mem_entryLeaves_iff h.self fun k v hv => h.entry (Entries.get?_of_mem h.self hv)]
  | .null, _, ⟨place, source⟩ | .bool _, _, ⟨place, source⟩ | .int _, _, ⟨place, source⟩
  | .float _, _, ⟨place, source⟩ => by
    cases place with
    | nil => simp [leaves]
    | cons s place => cases s <;> simp [leaves, at?]

theorem mem_itemLeaves_iff : ∀ {items : List Value} {i : Nat},
    (∀ v ∈ items, EveryMap Entries.Unique v) → ∀ {leaf : Leaf},
    leaf ∈ itemLeaves items i ↔ ∃ j rest, leaf.place = .index (i + j) :: rest ∧
      items[j]?.bind (·.at? rest) = some (.str leaf.source)
  | [], i, _, leaf => by simp [itemLeaves]
  | v :: items, i, h, leaf => by
    rw [itemLeaves, List.mem_append, List.mem_map,
      mem_itemLeaves_iff fun w hw => h w (List.mem_cons_of_mem v hw)]
    constructor
    · rintro (⟨inner, hinner, rfl⟩ | ⟨j, rest, hplace, hj⟩)
      · refine ⟨0, inner.place, rfl, ?_⟩
        exact (mem_leaves_iff (h v List.mem_cons_self) inner).mp hinner
      · refine ⟨j + 1, rest, ?_, by simpa using hj⟩
        rw [hplace, Nat.add_assoc, Nat.add_comm 1 j]
    · rintro ⟨j, rest, hplace, hj⟩
      -- the first item has the leaf, or one of the others
      cases j with
      | zero =>
        refine Or.inl ⟨⟨rest, leaf.source⟩, ?_, ?_⟩
        · exact (mem_leaves_iff (h v List.mem_cons_self) _).mpr hj
        · exact congrArg (Leaf.mk · leaf.source) hplace.symm
      | succ j =>
        refine Or.inr ⟨j, rest, ?_, by simpa using hj⟩
        rw [hplace, Nat.add_assoc, Nat.add_comm 1 j]

theorem mem_entryLeaves_iff : ∀ {entries : List (String × Value)}, Entries.Unique entries →
    (∀ k v, (k, v) ∈ entries → EveryMap Entries.Unique v) → ∀ {leaf : Leaf},
    leaf ∈ entryLeaves entries ↔ at? (.map entries) leaf.place = some (.str leaf.source)
  | [], _, _, ⟨place, source⟩ => by
    cases place with
    | nil => simp [entryLeaves]
    | cons s place => cases s <;> simp [entryLeaves, at?]
  | (k, v) :: entries, hu, h, ⟨place, source⟩ => by
    obtain ⟨hk, hu'⟩ := List.nodup_cons.mp hu
    have hv : EveryMap Entries.Unique v := h k v List.mem_cons_self
    rw [entryLeaves, List.mem_append, List.mem_map,
      mem_entryLeaves_iff hu' fun l w hw => h l w (List.mem_cons_of_mem _ hw)]
    cases place with
    | nil => simp [Leaf.under]
    | cons s rest =>
      cases s with
      | index i => simp [Leaf.under, at?]
      | key l =>
        -- no key occurs twice, so an entry with this key has all leaves that are under it
        by_cases hl : k = l
        · subst hl
          have hnone : Entries.get? entries k = none := Entries.get?_eq_none_iff.mpr hk
          have hinner := mem_leaves_iff hv ⟨rest, source⟩
          simp only [at?_map_key, Entries.get?_cons_self, hnone, Option.bind_none, Option.bind_some,
            reduceCtorEq, or_false, ← hinner]
          constructor
          · rintro ⟨⟨rest', source'⟩, hmem, heq⟩
            obtain ⟨hplace, rfl⟩ := Leaf.mk.inj heq
            obtain rfl := (List.cons.inj hplace).2
            exact hmem
          · intro hmem
            exact ⟨_, hmem, rfl⟩
        · simp [Leaf.under, Entries.get?_cons, hl]

end

/-! ### Before a place -/

/-- A tree cut off before a place: nothing is left at the place, and the containers around it
are left with what they have before it. -/
def before : Value → TreePath → Value
  | _, [] => .null
  | .map es, .key k :: rest =>
    .map (es.takeWhile (·.1 ≠ k)
      ++ if rest = [] then [] else [(k, before ((Entries.get? es k).getD .null) rest)])
  | .list xs, .index i :: rest =>
    .list (xs.take i ++ if rest = [] then [] else [before (xs[i]?.getD .null) rest])
  | v, _ => v

/-- The tree `t` with, at `path`, as much of `w` as there is before a place in it.  Before the
place of `w` itself, that is just `t`. -/
def grown (t : Value) (path : TreePath) (w : Value) (place : TreePath) : Value :=
  if place = [] then t else t.put path (w.before place)

theorem grown_null (w : Value) (place : TreePath) : grown .null [] w place = w.before place := by
  unfold grown
  split
  · next h => rw [h, before]
  · rw [put_nil]

/-- A mapping that has grown up to an entry. -/
theorem grown_entry (t : Value) (path : TreePath) {done : Mapping} {k : String}
    (hk : k ∉ done.keys) (w : Value) (later : Mapping) (place : TreePath) :
    grown (t.put path (.map done)) (path.entry k) w place
      = grown t path (.map (done ++ (k, w) :: later)) (.key k :: place) := by
  have hget := Entries.get?_append_cons hk w later
  have htake : (done ++ (k, w) :: later).takeWhile (·.1 ≠ k) = done := by
    rw [List.takeWhile_append_of_pos, List.takeWhile_cons_of_neg (by simp), List.append_nil]
    intro e he
    have hmem : e.1 ∈ Entries.keys done := List.mem_map_of_mem he
    have hne : e.1 ≠ k := fun heq => hk (heq ▸ hmem)
    simpa using hne
  unfold grown
  -- at the entry itself nothing of it is there yet, below it a part of it is
  rw [if_neg (by simp : ¬ Step.key k :: place = []), before, htake, hget, Option.getD_some]
  by_cases h : place = []
  · simp [h]
  · rw [if_neg h, if_neg h, put_put_entry t path hk]

/-- A list that has grown up to an item. -/
theorem grown_item (t : Value) (path : TreePath) (done : List Value) (w : Value)
    (later : List Value) (place : TreePath) :
    grown (t.put path (.list done)) (path.item done.length) w place
      = grown t path (.list (done ++ w :: later)) (.index done.length :: place) := by
  have hget : (done ++ w :: later)[done.length]? = some w := by simp
  unfold grown
  rw [if_neg (by simp : ¬ Step.index done.length :: place = []), before, List.take_left, hget,
    Option.getD_some]
  by_cases h : place = []
  · simp [h]
  · rw [if_neg h, if_neg h, put_put_item]

end Value

end ConfigTree
