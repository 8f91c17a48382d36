import ConfigTree.Proofs.Tree.Overlay

/-!
# What values laid over one another hold at a place

Of two values laid over one another the upper one decides at every place that keys lead
to: where it holds something, that is laid over what the lower one has there.  Where it
holds nothing, the lower one is seen through it, unless something that is no mapping
hides the place.

The keys of the lower mapping come first, in their order, and behind them those that
only the upper one has.  Laying the same value over another a second time changes
nothing.

## Main definitions

* `TreePath.ofKeys` — the place that keys lead to, one below the other.
* `Value.MapsAlong` — what a value holds on the way along keys are mappings.

## Main results

* `Value.step?_overlay` — one step down into values laid over one another.
* `Value.at?_overlay_of_some`, `Value.at?_overlay_of_none` — what they hold at a place.
* `Mapping.keys_overlay_eq_append` — their keys.
* `Value.overlay_self`, `Value.overlay_overlay_self` — a second time changes nothing.
* `overlay_pathwise` — all of this.
-/

namespace ConfigTree

/-! ### Places that keys lead to -/

/-- The place that keys lead to, one below the other. -/
def TreePath.ofKeys (keys : List String) : TreePath := keys.map Step.key

@[simp] theorem TreePath.ofKeys_nil : TreePath.ofKeys [] = [] := rfl

@[simp] theorem TreePath.ofKeys_cons (key : String) (keys : List String) :
    TreePath.ofKeys (key :: keys) = .key key :: TreePath.ofKeys keys := rfl

namespace Value

theorem at?_key_cons (v : Value) (key : String) (rest : TreePath) :
    v.at? (.key key :: rest) = (v.step? (.key key)).bind (·.at? rest) := by
  cases v <;> rfl

theorem step?_key_of_not_isMap {v : Value} (h : v.isMap = false) (key : String) :
    v.step? (.key key) = none := by
  cases v <;> first | rfl | contradiction

theorem isMap_of_step?_key {v w : Value} {key : String} (h : v.step? (.key key) = some w) :
    v.isMap = true := by
  cases v <;> first | rfl | cases h

/-- What a value holds on the way along keys, itself included, are mappings. -/
def MapsAlong (v : Value) (keys : List String) : Prop :=
  ∀ above, above <+: keys → above ≠ keys →
    ∀ w, v.at? (TreePath.ofKeys above) = some w → w.isMap = true

@[simp] theorem mapsAlong_nil (v : Value) : v.MapsAlong [] := by
  intro above hprefix hne
  exact absurd (List.prefix_nil.mp hprefix) hne

theorem mapsAlong_cons {v : Value} {key : String} {keys : List String} :
    v.MapsAlong (key :: keys)
      ↔ v.isMap = true ∧ ∀ w, v.step? (.key key) = some w → w.MapsAlong keys := by
  constructor
  · intro h
    refine ⟨h [] List.nil_prefix (by simp) v (at?_nil v), ?_⟩
    intro w hw above hprefix hne u hu
    refine h (key :: above) (List.cons_prefix_cons.mpr ⟨rfl, hprefix⟩) (by simpa using hne) u ?_
    rw [TreePath.ofKeys_cons, at?_key_cons, hw]
    exact hu
  · rintro ⟨hmap, hbelow⟩ above hprefix hne u hu
    -- the value itself, or what stands under its first key
    cases above with
    | nil =>
      obtain rfl : v = u := by simpa using hu
      exact hmap
    | cons k above =>
      obtain ⟨rfl, hrest⟩ := List.cons_prefix_cons.mp hprefix
      rw [TreePath.ofKeys_cons, at?_key_cons, Option.bind_eq_some_iff] at hu
      obtain ⟨w, hw, hu⟩ := hu
      exact hbelow w hw above hrest (by simpa using hne) u hu

/-! ### At a place -/

/-- **One step down into values laid over one another.** -/
theorem step?_overlay (a b : Value) (key : String) :
    (a.overlay b).step? (.key key)
      = match b.step? (.key key) with
        | some w => some ((a.entryOr key).overlay w)
        | none => if b.isMap then a.step? (.key key) else none := by
  -- only of two mappings the entries are laid over one another; otherwise the upper value
  -- is all there is
  by_cases hb : b.isMap = true
  · obtain ⟨top, rfl⟩ := isMap_iff.mp hb
    by_cases ha : a.isMap = true
    · obtain ⟨base, rfl⟩ := isMap_iff.mp ha
      exact Mapping.get?_overlay base top key
    · -- the lower value is hidden, and there is nothing under its keys
      rw [Bool.not_eq_true] at ha
      rw [overlay_of_base_not_isMap ha, entryOr, step?_key_of_not_isMap ha]
      cases (Value.map top).step? (.key key) <;> rfl
  · rw [Bool.not_eq_true] at hb
    rw [overlay_of_not_isMap a hb, step?_key_of_not_isMap hb]
    simp [hb]

theorem getD_at?_entryOr (v : Value) (key : String) (rest : TreePath) :
    ((v.entryOr key).at? rest).getD .null = (v.at? (.key key :: rest)).getD .null := by
  rw [at?_key_cons, entryOr]
  cases v.step? (.key key) with
  | none => exact getD_at?_null rest
  | some w => rfl

/-- **Where the upper value holds something**, that is laid over what the lower one has there. -/
theorem at?_overlay_of_some {a b w : Value} {keys : List String}
    (h : b.at? (TreePath.ofKeys keys) = some w) :
    (a.overlay b).at? (TreePath.ofKeys keys)
      = some (((a.at? (TreePath.ofKeys keys)).getD .null).overlay w) := by
  induction keys generalizing a b with
  | nil =>
    obtain rfl : b = w := by simpa using h
    simp
  | cons key keys ih =>
    rw [TreePath.ofKeys_cons, at?_key_cons, Option.bind_eq_some_iff] at h
    obtain ⟨u, hu, hw⟩ := h
    -- below the key the upper value holds something, laid over what the lower one has there
    rw [TreePath.ofKeys_cons, at?_key_cons, step?_overlay, hu, ← getD_at?_entryOr]
    exact ih hw

/-- **Where the upper value holds nothing**, the lower one is seen through its mappings, and
through nothing else. -/
theorem at?_overlay_of_none {a b : Value} {keys : List String}
    (h : b.at? (TreePath.ofKeys keys) = none) :
    (b.MapsAlong keys → (a.overlay b).at? (TreePath.ofKeys keys) = a.at? (TreePath.ofKeys keys))
      ∧ (¬ b.MapsAlong keys → (a.overlay b).at? (TreePath.ofKeys keys) = none) := by
  induction keys generalizing a b with
  | nil => simp at h
  | cons key keys ih =>
    rw [mapsAlong_cons]
    simp only [TreePath.ofKeys_cons, at?_key_cons, step?_overlay] at h ⊢
    cases hb : b.step? (.key key) with
    | none =>
      -- the upper value ends here
      cases b.isMap <;> simp
    | some u =>
      rw [hb, Option.bind_some] at h
      have hbelow : (∀ w, some u = some w → w.MapsAlong keys) ↔ u.MapsAlong keys := by simp
      rw [and_iff_right (isMap_of_step?_key hb), hbelow, Option.bind_some]
      obtain ⟨hseen, hhidden⟩ := ih (a := a.entryOr key) h
      refine ⟨fun hmaps => ?_, hhidden⟩
      rw [hseen hmaps, entryOr]
      cases a.step? (.key key) with
      | some w => rfl
      | none =>
        -- nothing is there, and `keys` lead further down
        cases keys with
        | nil => simp at h
        | cons k keys => rfl

end Value

/-! ### Keys -/

namespace Mapping

theorem behind_eq_append {keys new : List String} (h : new.Nodup) :
    behind keys new = keys ++ new.filter (· ∉ keys) := by
  induction new generalizing keys with
  | nil => simp [behind]
  | cons key new ih =>
    obtain ⟨hkey, hnew⟩ := List.nodup_cons.mp h
    rw [behind, List.foldl_cons, ← behind, ih hnew]
    by_cases hk : key ∈ keys
    · simp [hk]
    · -- the key is put behind the others, and does not come again
      have hrest : new.filter (· ∉ keys ++ [key]) = new.filter (· ∉ keys) := by
        refine List.filter_congr fun k hkn => ?_
        have hne : k ≠ key := fun heq => hkey (heq ▸ hkn)
        simp [hne]
      rw [if_neg hk, hrest, List.filter_cons_of_pos (by simpa using hk), List.append_assoc,
        List.singleton_append]

/-- **The keys of an overlaid mapping**: those below, and behind them those that are only above. -/
theorem keys_overlay_eq_append (base : Mapping) {top : Mapping} (h : Entries.Unique top) :
    (overlay base top).keys = base.keys ++ top.keys.filter (· ∉ base.keys) := by
  rw [keys_overlay base h, behind_eq_append h]

theorem unique_overlay {base top : Mapping} (hb : Entries.Unique base) (ht : Entries.Unique top) :
    Entries.Unique (overlay base top) := by
  unfold Entries.Unique
  rw [keys_overlay_eq_append base ht, List.nodup_append]
  refine ⟨hb, ht.filter _, ?_⟩
  rintro k hk l hl rfl
  exact of_decide_eq_true (List.mem_filter.mp hl).2 hk

end Mapping

/-! ### A second time -/

mutual

/-- A value laid over itself is the value. -/
@[simp] theorem Value.overlay_self : ∀ v : Value, v.overlay v = v
  | .map es => by rw [Value.overlay_map_map, Mapping.overlay_self es]
  | .null | .bool _ | .int _ | .float _ | .str _ | .list _ => rfl

/-- A mapping laid over itself is the mapping. -/
@[simp] theorem Mapping.overlay_self : ∀ es : List (String × Value), Mapping.overlay es es = es
  | [] => rfl
  | (key, v) :: es => by
    rw [Mapping.overlay_cons, Entries.get?_cons_self]
    simp only [Entries.erase, if_true, Value.overlay_self v, Mapping.overlay_self es]

end

mutual

/-- **Laying a value over another a second time changes nothing.** -/
@[simp] theorem Value.overlay_overlay_self : ∀ a b : Value, (a.overlay b).overlay b = a.overlay b
  | .map es, .map fs => by
    simp only [Value.overlay_map_map, Mapping.overlay_overlay_self es fs]
  | .map _, .null | .map _, .bool _ | .map _, .int _ | .map _, .float _ | .map _, .str _
  | .map _, .list _ => rfl
  -- a value that is no mapping is replaced, and what replaced it is laid over itself
  | .null, b | .bool _, b | .int _, b | .float _, b | .str _, b | .list _, b =>
    Value.overlay_self b

/-- The same for mappings. -/
@[simp] theorem Mapping.overlay_overlay_self : ∀ es fs : List (String × Value),
    Mapping.overlay (Mapping.overlay es fs) fs = Mapping.overlay es fs
  | [], fs => Mapping.overlay_self fs
  | (key, v) :: es, fs => by
    rw [Mapping.overlay_cons]
    cases h : Entries.get? fs key with
    | none => simp only [Mapping.overlay_cons, h, Mapping.overlay_overlay_self es fs]
    | some w =>
      simp only [Mapping.overlay_cons, h, Value.overlay_overlay_self v w,
        Mapping.overlay_overlay_self es (Entries.erase fs key)]

end

/-! ### All of it -/

/-- **Values laid over one another, place by place.**  Where the upper one holds something other
than a mapping, that is what there is.  Where it holds a mapping, that is laid over the mapping
of the lower one there, if there is one.  Where it holds nothing, the lower one is seen if
mappings are all that the upper one holds on the way, and otherwise there is nothing.

Of two mappings the keys of the lower one come first and then the others of the upper one, none
of them twice.  Laying the same over it again changes nothing, nor does laying a value over
itself. -/
theorem overlay_pathwise (a b : Value) :
    (∀ keys : List String,
      let place := TreePath.ofKeys keys
      (∀ w, b.at? place = some w → w.isMap = false → (a.overlay b).at? place = some w)
      ∧ (∀ top, b.at? place = some (.map top) →
          (∀ base, a.at? place = some (.map base) →
            (a.overlay b).at? place = some ((Value.map base).overlay (.map top)))
          ∧ ((∀ base, a.at? place ≠ some (.map base)) →
            (a.overlay b).at? place = some (.map top)))
      ∧ (b.at? place = none → b.MapsAlong keys → (a.overlay b).at? place = a.at? place)
      ∧ (b.at? place = none → ¬ b.MapsAlong keys → (a.overlay b).at? place = none))
    ∧ (∀ base top : Mapping, Entries.Unique base → Entries.Unique top →
        a = .map base → b = .map top →
        ∃ r : Mapping, a.overlay b = .map r
          ∧ r.keys = base.keys ++ top.keys.filter (· ∉ base.keys) ∧ r.keys.Nodup)
    ∧ (a.overlay b).overlay b = a.overlay b
    ∧ a.overlay a = a := by
  refine ⟨fun keys => ⟨?_, ?_, ?_, ?_⟩, ?_, Value.overlay_overlay_self a b, Value.overlay_self a⟩
  · intro w hw hmap
    rw [Value.at?_overlay_of_some hw, Value.overlay_of_not_isMap _ hmap]
  · intro top htop
    rw [Value.at?_overlay_of_some htop]
    constructor
    · intro base hbase
      rw [hbase, Option.getD_some]
    · intro hbase
      -- no mapping below, or nothing at all: the upper mapping is taken as it is
      have hmap : ((a.at? (TreePath.ofKeys keys)).getD .null).isMap = false := by
        cases ha : a.at? (TreePath.ofKeys keys) with
        | none => rfl
        | some v =>
          cases v with
          | map base => exact absurd ha (hbase base)
          | _ => rfl
      rw [Value.overlay_of_base_not_isMap hmap]
  · exact fun h => (Value.at?_overlay_of_none h).1
  · exact fun h => (Value.at?_overlay_of_none h).2
  · rintro base top hbase htop rfl rfl
    exact ⟨_, Value.overlay_map_map base top, Mapping.keys_overlay_eq_append base htop,
      Mapping.unique_overlay hbase htop⟩

/-- `b` replaces the mapping under `x` by a number, adds to the one under `m`, and hides what `a`
has below `x`. -/
theorem overlay_pathwise_of_two :
    let a : Value := .map [("x", .map [("y", .null)]), ("m", .map [("p", .bool true)])]
    let b : Value := .map [("n", .null), ("m", .map [("q", .bool false)]), ("x", .str "s")]
    (a.overlay b).at? (TreePath.ofKeys ["x"]) = some (.str "s")
      ∧ (a.overlay b).at? (TreePath.ofKeys ["m"])
        = some (.map [("p", .bool true), ("q", .bool false)])
      ∧ (a.overlay b).at? (TreePath.ofKeys ["n"]) = some .null
      ∧ (a.overlay b).at? (TreePath.ofKeys ["m", "p"]) = some (.bool true)
      ∧ (a.overlay b).at? (TreePath.ofKeys ["x", "y"]) = none
      ∧ (∃ r : Mapping, a.overlay b = .map r ∧ r.keys = ["x", "m", "n"] ∧ r.keys.Nodup) := by
  intro a b
  obtain ⟨hplace, hkeys, -, -⟩ := overlay_pathwise a b
  have hx : ¬ b.MapsAlong ["x", "y"] := by
    intro h
    have hs := h ["x"] (by decide) (by decide) (.str "s") rfl
    cases hs
  have hm : b.MapsAlong ["m", "p"] := by
    simp only [b, Value.mapsAlong_cons]
    refine ⟨rfl, fun w hw => ?_⟩
    obtain rfl : Value.map [("q", .bool false)] = w := Option.some.inj hw
    exact ⟨rfl, fun _ _ => Value.mapsAlong_nil _⟩
  refine ⟨?_, ?_, ?_, ?_, ?_, ?_⟩
  · exact (hplace ["x"]).1 (.str "s") rfl rfl
  · exact ((hplace ["m"]).2.1 [("q", .bool false)] rfl).1 [("p", .bool true)] rfl
  · exact (hplace ["n"]).1 .null rfl rfl
  · exact (hplace ["m", "p"]).2.2.1 rfl hm
  · exact (hplace ["x", "y"]).2.2.2 rfl hx
  · exact hkeys [("x", .map [("y", .null)]), ("m", .map [("p", .bool true)])]
      [("n", .null), ("m", .map [("q", .bool false)]), ("x", .str "s")]
      (by decide) (by decide) rfl rfl

end ConfigTree
