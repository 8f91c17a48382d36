import ConfigTree.Proofs.Tree.Place

/-!
# Laws of laying values over one another

What an overlaid mapping holds under a key is decided by what the two mappings hold
under that key alone, so that laying a mapping over another is the same as laying its
entries over it one after the other.  The keys come in the order in which they were
first there.

Several values can be laid over one another, the last of them on top; at an entry this
is the same as laying over one another what they have there.

## Main definitions

* `Mapping.lay` — one entry laid over a mapping.
* `Mapping.behind keys new` — keys, and behind them those of `new` that are not yet there.
* `Value.entryOr k` — what stands under a key, or nothing.

## Main results

* `Mapping.get?_overlay` — what an overlaid mapping holds under a key.
* `Mapping.overlay_eq_foldl` — laying a mapping over another is laying its entries over it.
* `Mapping.keys_overlay` — the keys of an overlaid mapping, in order.
* `Value.step?_foldr_overlay` — an entry of values laid over one another.
-/

namespace ConfigTree

namespace Mapping

/-! ### Under one key -/

/-- **What an overlaid mapping holds under a key.** -/
theorem get?_overlay (base top : Mapping) (key : String) :
    Entries.get? (overlay base top) key
      = match Entries.get? top key with
        | some w => some (((Entries.get? base key).getD .null).overlay w)
        | none => Entries.get? base key := by
  induction base generalizing top with
  -- nothing is below, so that everything of the top is new
  | nil => cases h : Entries.get? top key <;> simp [h]
  | cons e base ih =>
    obtain ⟨k, v⟩ := e
    rw [overlay_cons]
    by_cases hk : k = key
    · subst hk
      cases h : Entries.get? top k <;> simp
    · cases h : Entries.get? top k with
      | none => simp [Entries.get?_cons, hk, ih]
      | some w => simp [Entries.get?_cons, hk, ih, Entries.get?_erase_of_ne top hk]

theorem get?_overlay_of_some (base : Mapping) {top : Mapping} {key : String} {w : Value}
    (h : Entries.get? top key = some w) :
    Entries.get? (overlay base top) key
      = some (((Entries.get? base key).getD .null).overlay w) := by
  rw [get?_overlay, h]

/-! ### Entry by entry -/

@[simp] theorem overlay_empty (base : Mapping) : overlay base [] = base := by
  induction base with
  | nil => rfl
  | cons e base ih =>
    obtain ⟨k, v⟩ := e
    simpa [overlay_cons] using ih

/-- One entry laid over a mapping. -/
def lay (base : Mapping) (entry : String × Value) : Mapping :=
  base.alter entry.1 fun old => (old.getD .null).overlay entry.2

/-- An entry whose key does not occur in what follows it is laid first. -/
theorem overlay_cons_top (base : Mapping) (key : String) (v : Value) {rest : Mapping}
    (h : Entries.get? rest key = none) :
    overlay base ((key, v) :: rest) = overlay (base.lay (key, v)) rest := by
  induction base generalizing rest with
  | nil => simp [lay, Entries.alter, overlay_cons, h]
  | cons e base ih =>
    obtain ⟨k, u⟩ := e
    by_cases hk : k = key
    · -- the entry is laid over this one, and nothing that follows it
      subst hk
      simp [lay, Entries.alter, overlay_cons, Entries.erase, h]
    · have hk' : ¬ key = k := Ne.symm hk
      have hlay : lay ((k, u) :: base) (key, v) = (k, u) :: lay base (key, v) := by
        simp [lay, Entries.alter, hk]
      -- both sides start with the entry at `k`, which the new entry does not touch
      rw [hlay, overlay_cons, overlay_cons, Entries.get?_cons, if_neg hk']
      cases hr : Entries.get? rest k with
      | none => simp only [ih h]
      | some w =>
        have hne : Entries.get? (Entries.erase rest k) key = none := by
          rw [Entries.get?_erase_of_ne rest hk, h]
        simp only [Entries.erase, if_neg hk', ih hne]

/-- **Laying a mapping over another is laying its entries over it one after the other.** -/
theorem overlay_eq_foldl (base : Mapping) {top : Mapping} (h : Entries.Unique top) :
    overlay base top = top.foldl lay base := by
  induction top generalizing base with
  | nil => exact overlay_empty base
  | cons e top ih =>
    obtain ⟨k, v⟩ := e
    obtain ⟨hk, hu⟩ := List.nodup_cons.mp h
    -- the keys of the top are distinct, so that its first entry can be laid before the others
    rw [overlay_cons_top base k v (Entries.get?_eq_none_iff.mpr hk), ih _ hu, List.foldl_cons]

/-! ### The order of the keys -/

/-- Keys, and behind them, in order, those of `new` that are not there yet. -/
def behind (keys new : List String) : List String :=
  new.foldl (fun ks k => if k ∈ ks then ks else ks ++ [k]) keys

theorem mem_behind {keys new : List String} {k : String} :
    k ∈ behind keys new ↔ k ∈ keys ∨ k ∈ new := by
  induction new generalizing keys with
  | nil => simp [behind]
  | cons l new ih =>
    rw [behind, List.foldl_cons, ← behind, ih, List.mem_cons]
    split
    · next h =>
      constructor
      · exact fun hk => hk.imp_right Or.inr
      · rintro (hk | rfl | hk)
        · exact Or.inl hk
        · exact Or.inl h
        · exact Or.inr hk
    · rw [List.mem_append, List.mem_singleton, or_assoc]

theorem prefix_behind (keys new : List String) : keys <+: behind keys new := by
  induction new generalizing keys with
  | nil => exact List.prefix_refl keys
  | cons l new ih =>
    rw [behind, List.foldl_cons, ← behind]
    split
    · exact ih keys
    · exact (List.prefix_append keys [l]).trans (ih _)

theorem keys_lay (base : Mapping) (entry : String × Value) :
    (base.lay entry).keys = behind base.keys [entry.1] := Entries.keys_alter base _ _

theorem keys_foldl_lay (base top : Mapping) :
    Entries.keys (top.foldl lay base) = behind base.keys top.keys := by
  induction top generalizing base with
  | nil => rfl
  | cons e top ih =>
    rw [List.foldl_cons, ih, keys_lay]
    rfl

/-- The keys of an overlaid mapping, in order. -/
theorem keys_overlay (base : Mapping) {top : Mapping} (h : Entries.Unique top) :
    (overlay base top).keys = behind base.keys top.keys := by
  rw [overlay_eq_foldl base h, keys_foldl_lay]

end Mapping

namespace Value

/-- Nothing laid over a mapping that was opened is no change. -/
theorem overlayAt_openMap (t : Value) (path : TreePath) :
    (t.openMap path).overlayAt path [] = t.openMap path := by
  unfold openMap
  split
  · next under hunder =>
    simp only [overlayAt, hunder, Mapping.overlay_empty]
    exact put_of_at? hunder
  · simp only [overlayAt, at?_put_self, put_put, Mapping.overlay_empty]

/-! ### Several values -/

/-- What stands under a key, or nothing. -/
def entryOr (k : String) (v : Value) : Value := (v.step? (.key k)).getD .null

/-- Values laid over a list leave the list. -/
theorem foldr_overlay_of_not_isMap (layers : List Value) {v : Value} (h : v.isMap = false) :
    layers.foldr overlay v = v := by
  induction layers with
  | nil => rfl
  | cons l layers ih => rw [List.foldr_cons, ih, overlay_of_not_isMap l h]

/-- What is no mapping can as well be left out below. -/
theorem foldr_overlay_of_forall_not_isMap {layers : List Value}
    (h : ∀ l ∈ layers, l.isMap = false) (v : Value) : layers.foldr overlay v = v := by
  induction layers with
  | nil => rfl
  | cons l layers ih =>
    rw [List.foldr_cons, ih fun m hm => h m (List.mem_cons_of_mem l hm),
      overlay_of_base_not_isMap (h l List.mem_cons_self)]

/-- **An entry of values laid over one another** is what stands there in each of them, laid over
one another. -/
theorem step?_foldr_overlay (layers : List Value) {es : List (String × Value)} {k : String}
    {v : Value} (h : Entries.get? es k = some v) :
    (layers.foldr overlay (.map es)).step? (.key k)
      = some ((layers.map (entryOr k)).foldr overlay v) := by
  -- what is laid over the layers stays a mapping, whatever they are
  have hmap : ∃ fs, layers.foldr overlay (.map es) = .map fs ∧
      Entries.get? fs k = some ((layers.map (entryOr k)).foldr overlay v) := by
    induction layers with
    | nil => exact ⟨es, rfl, h⟩
    | cons l layers ih =>
      obtain ⟨fs, hfs, hk⟩ := ih
      rw [List.foldr_cons, hfs]
      cases l with
      | map under =>
        refine ⟨_, rfl, ?_⟩
        rw [Mapping.get?_overlay, hk]
        rfl
      | _ => exact ⟨fs, rfl, hk⟩
  obtain ⟨fs, hfs, hk⟩ := hmap
  rw [hfs]
  exact hk

end Value

end ConfigTree
