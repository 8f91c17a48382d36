import ConfigTree.Eval.Arithmetic
import ConfigTree.Proofs.Tree.Leaves
import Mathlib.Data.List.Forall2
import Mathlib.Data.List.Perm.Basic

/-!
# Comparisons do not contradict one another

Among values without floats, equality is an equivalence, and the order is one of the classes of
equal values, as far as it goes.  Not all values have an order: those of different sorts have
none, mappings have none at all, and neither have lists whose first items that differ have none.
But whether two values have an order does not depend on which of them comes first, and equal
values have the same order to all others.

The laws are proved by induction on a value without floats.  For lists they follow from the same
laws of their items, which is stated apart: `itemsOrder?` looks for the first items that differ.

## Main definitions

* `Value.FloatFree` — values without floats.
* `Operation.Tells` — what the six comparisons of two values say.

## Main results

* `Value.FloatFree.equal_refl`, `equal_symm`, `equal_trans` — equality is an equivalence.
* `Value.FloatFree.order?_swap`, `exists_of_order?`, `order?_congr`, `order?_trans` — the laws of
  the order.
* `order_coherent` — all of this.
-/

namespace ConfigTree

namespace Value

/-- The values that hold no float, at any depth, and in whose mappings no key occurs twice. -/
inductive FloatFree : Value → Prop
  | null : FloatFree .null
  | bool (b : Bool) : FloatFree (.bool b)
  | int (n : Int64) : FloatFree (.int n)
  | str (s : String) : FloatFree (.str s)
  | list {items : List Value} : (∀ v ∈ items, FloatFree v) → FloatFree (.list items)
  | map {entries : Mapping} : Entries.Unique entries → (∀ e ∈ entries, FloatFree e.2) →
    FloatFree (.map entries)

theorem FloatFree.item {xs : List Value} (h : (Value.list xs).FloatFree) :
    ∀ v ∈ xs, v.FloatFree := by
  cases h with
  | list hxs => exact hxs

theorem FloatFree.unique {es : Mapping} (h : (Value.map es).FloatFree) : Entries.Unique es := by
  cases h with
  | map hu _ => exact hu

theorem FloatFree.entry {es : Mapping} (h : (Value.map es).FloatFree) {key : String} {v : Value}
    (hv : Entries.get? es key = some v) : v.FloatFree := by
  cases h with
  | map _ hes => exact hes (key, v) (Entries.mem_of_get? hv)

/-! ### What equals a value of each sort -/

@[simp] theorem equal_null_iff {w : Value} : Value.null.equal w = true ↔ w = .null := by
  cases w <;> simp [equal, scalarEqual, numeric?]

@[simp] theorem equal_str_iff {s : String} {w : Value} :
    (Value.str s).equal w = true ↔ w = .str s := by
  cases w <;> simp [equal, scalarEqual, numeric?]
  exact eq_comm

theorem equal_number_iff {v w : Value} {n : Int64} (hv : v.toInt64? = some n)
    (hw : w.FloatFree) : v.equal w = true ↔ w.toInt64? = some n := by
  rcases eq_of_toInt64? hv with rfl | ⟨b, rfl, rfl⟩ <;>
    cases hw <;> simp [equal, scalarEqual, numeric?, Numeric.equal, toInt64?] <;> exact eq_comm

theorem itemsEqual_iff {xs ys : List Value} :
    itemsEqual xs ys = true ↔ List.Forall₂ (fun x y => x.equal y = true) xs ys := by
  induction xs generalizing ys with
  | nil => cases ys <;> simp [itemsEqual]
  | cons x xs ih => cases ys <;> simp [itemsEqual, ih]

theorem equal_list_iff {xs : List Value} {w : Value} : (Value.list xs).equal w = true
    ↔ ∃ ys, w = .list ys ∧ List.Forall₂ (fun x y => x.equal y = true) xs ys := by
  cases w <;> simp [equal, itemsEqual_iff]

theorem entriesEqual_iff {es fs : List (String × Value)} : entriesEqual es fs = true
    ↔ ∀ e ∈ es, ∃ w, Entries.get? fs e.1 = some w ∧ e.2.equal w = true := by
  induction es with
  | nil => simp [entriesEqual]
  | cons e es ih =>
    obtain ⟨k, v⟩ := e
    cases h : Entries.get? fs k <;> simp [entriesEqual, h, ih]

theorem equal_map_iff {es : List (String × Value)} {w : Value} : (Value.map es).equal w = true
    ↔ ∃ fs, w = .map fs ∧ es.length = fs.length
      ∧ ∀ e ∈ es, ∃ u, Entries.get? fs e.1 = some u ∧ e.2.equal u = true := by
  cases w <;> simp [equal, entriesEqual_iff]

/-! ### Equality -/

section Items

variable {xs ys zs : List Value}

/-- Items that equal others one by one, the other way round. -/
theorem forall₂_symm (h : List.Forall₂ (fun x y => x.equal y = true) xs ys)
    (hys : ∀ y ∈ ys, y.FloatFree)
    (hsymm : ∀ x ∈ xs, ∀ y : Value, y.FloatFree → x.equal y = true → y.equal x = true) :
    List.Forall₂ (fun x y => x.equal y = true) ys xs := by
  induction h with
  | nil => exact .nil
  | cons hxy _ ih =>
    obtain ⟨hy, hys⟩ := List.forall_mem_cons.mp hys
    obtain ⟨hhead, htail⟩ := List.forall_mem_cons.mp hsymm
    exact .cons (hhead _ hy hxy) (ih hys htail)

theorem forall₂_trans (hxy : List.Forall₂ (fun x y => x.equal y = true) xs ys)
    (hyz : List.Forall₂ (fun x y => x.equal y = true) ys zs)
    (hys : ∀ y ∈ ys, y.FloatFree) (hzs : ∀ z ∈ zs, z.FloatFree)
    (htrans : ∀ x ∈ xs, ∀ y z : Value, y.FloatFree → z.FloatFree →
      x.equal y = true → y.equal z = true → x.equal z = true) :
    List.Forall₂ (fun x y => x.equal y = true) xs zs := by
  induction hxy generalizing zs with
  | nil => exact hyz
  | cons h _ ih =>
    cases hyz with
    | cons h' hrest =>
      obtain ⟨hy, hys⟩ := List.forall_mem_cons.mp hys
      obtain ⟨hz, hzs⟩ := List.forall_mem_cons.mp hzs
      obtain ⟨hhead, htail⟩ := List.forall_mem_cons.mp htrans
      exact .cons (hhead _ _ hy hz h h') (ih hrest hys hzs htail)

end Items

/-- Of two mappings with as many keys, none of them twice, the second has no key but those of the
first if it has all of them. -/
theorem exists_mem_of_length_eq {es fs : Mapping} (hes : Entries.Unique es)
    (hlength : es.length = fs.length) (hkeys : ∀ e ∈ es, Entries.has fs e.1 = true)
    {f : String × Value} (hf : f ∈ fs) : ∃ v, (f.1, v) ∈ es := by
  have hsub : Entries.keys es ⊆ Entries.keys fs := by
    intro key hkey
    obtain ⟨e, he, rfl⟩ := List.mem_map.mp hkey
    exact Entries.mem_keys_iff.mpr (hkeys e he)
  have hle : (Entries.keys fs).length ≤ (Entries.keys es).length := by
    simp [Entries.keys, hlength]
  -- no key twice and none too many: the keys of the one are some of those of the other,
  -- and they are as many
  have hperm : (Entries.keys es).Perm (Entries.keys fs) :=
    (List.subperm_of_subset hes hsub).perm_of_length_le hle
  have hmem : f.1 ∈ Entries.keys es := hperm.mem_iff.mpr (List.mem_map_of_mem hf)
  obtain ⟨e, he, heq⟩ := List.mem_map.mp hmem
  exact ⟨e.2, heq ▸ he⟩

namespace FloatFree

theorem equal_refl {v : Value} (h : v.FloatFree) : v.equal v = true := by
  -- on what makes `v` free of floats; the laws for parts are hypotheses of the lemmas for lists
  induction h with
  | null => exact equal_null_iff.mpr rfl
  | bool | int => exact (equal_number_iff rfl (by constructor)).mpr rfl
  | str s => exact equal_str_iff.mpr rfl
  | list _ ih => exact equal_list_iff.mpr ⟨_, rfl, List.forall₂_same.mpr ih⟩
  | map hu _ ih =>
    refine equal_map_iff.mpr ⟨_, rfl, rfl, ?_⟩
    intro e he
    exact ⟨e.2, Entries.get?_of_mem hu he, ih e he⟩

theorem equal_symm {v w : Value} (hv : v.FloatFree) (hw : w.FloatFree) (h : v.equal w = true) :
    w.equal v = true := by
  induction hv generalizing w with
  | null =>
    obtain rfl := equal_null_iff.mp h
    exact h
  -- a truth value equals its number, so all that counts is the number
  | bool | int =>
    have hn := (equal_number_iff rfl hw).mp h
    exact (equal_number_iff hn (by constructor)).mpr rfl
  | str s =>
    obtain rfl := equal_str_iff.mp h
    exact h
  | @list xs _ ih =>
    obtain ⟨ys, rfl, hitems⟩ := equal_list_iff.mp h
    refine equal_list_iff.mpr ⟨xs, rfl, forall₂_symm hitems hw.item ?_⟩
    intro x hx y hy hxy
    exact ih x hx hy hxy
  | @map es hes _ ih =>
    obtain ⟨fs, rfl, hlength, hentries⟩ := equal_map_iff.mp h
    refine equal_map_iff.mpr ⟨es, rfl, hlength.symm, ?_⟩
    intro f hf
    -- the key of `f` is one of `es`, and `f` is what `fs` has under it
    have hkeys : ∀ e ∈ es, Entries.has fs e.1 = true := by
      intro e he
      obtain ⟨u, hu, -⟩ := hentries e he
      rw [Entries.has, hu, Option.isSome_some]
    obtain ⟨v, hv⟩ := exists_mem_of_length_eq hes hlength hkeys hf
    obtain ⟨u, hu, hvu⟩ := hentries (f.1, v) hv
    have hf' : Entries.get? fs f.1 = some f.2 := Entries.get?_of_mem hw.unique hf
    obtain rfl : u = f.2 := Option.some.inj (hu.symm.trans hf')
    exact ⟨v, Entries.get?_of_mem hes hv, ih (f.1, v) hv (hw.entry hf') hvu⟩

theorem equal_trans {u v w : Value} (hu : u.FloatFree) (hv : v.FloatFree) (hw : w.FloatFree)
    (huv : u.equal v = true) (hvw : v.equal w = true) : u.equal w = true := by
  induction hu generalizing v w with
  | null =>
    obtain rfl := equal_null_iff.mp huv
    exact hvw
  | bool | int =>
    have hn := (equal_number_iff rfl hv).mp huv
    exact (equal_number_iff rfl hw).mpr ((equal_number_iff hn hw).mp hvw)
  | str s =>
    obtain rfl := equal_str_iff.mp huv
    exact hvw
  | list _ ih =>
    obtain ⟨ys, rfl, hxy⟩ := equal_list_iff.mp huv
    obtain ⟨zs, rfl, hyz⟩ := equal_list_iff.mp hvw
    refine equal_list_iff.mpr ⟨zs, rfl, forall₂_trans hxy hyz hv.item hw.item ?_⟩
    intro x hx y z hy hz h h'
    exact ih x hx hy hz h h'
  | map _ _ ih =>
    obtain ⟨fs, rfl, hef, hes⟩ := equal_map_iff.mp huv
    obtain ⟨gs, rfl, hfg, hfs⟩ := equal_map_iff.mp hvw
    refine equal_map_iff.mpr ⟨gs, rfl, hef.trans hfg, ?_⟩
    -- what the second has under a key of the first, the third has something equal for
    intro e he
    obtain ⟨x, hx, hex⟩ := hes e he
    obtain ⟨y, hy, hxy⟩ := hfs (e.1, x) (Entries.mem_of_get? hx)
    exact ⟨y, hy, ih e he (hv.entry hx) (hw.entry hy) hex hxy⟩

/-- Equal values equal the same. -/
theorem equal_eq {u v w : Value} (hu : u.FloatFree) (hv : v.FloatFree) (hw : w.FloatFree)
    (h : u.equal v = true) : u.equal w = v.equal w := by
  rw [Bool.eq_iff_iff]
  exact ⟨hv.equal_trans hu hw (hu.equal_symm hv h), hu.equal_trans hv hw h⟩

theorem equal_comm {v w : Value} (hv : v.FloatFree) (hw : w.FloatFree) :
    v.equal w = w.equal v := by
  rw [Bool.eq_iff_iff]
  exact ⟨hv.equal_symm hw, hw.equal_symm hv⟩

end FloatFree

/-! ### What has an order with a value of each sort -/

theorem order?_null_ne_ok {w : Value} {o : Option Ordering} : Value.null.order? w ≠ .ok o := by
  cases w <;> simp [order?, numeric?]

theorem order?_map_ne_ok {es : List (String × Value)} {w : Value} {o : Option Ordering} :
    (Value.map es).order? w ≠ .ok o := by
  cases w <;> simp [order?, numeric?]

theorem order?_str_iff {s : String} {w : Value} {o : Option Ordering} :
    (Value.str s).order? w = .ok o ↔ ∃ t, w = .str t ∧ o = some (compare s t) := by
  cases w <;> simp [order?, eq_comm]

theorem order?_list_iff {xs : List Value} {w : Value} {o : Option Ordering} :
    (Value.list xs).order? w = .ok o ↔ ∃ ys, w = .list ys ∧ itemsOrder? xs ys = .ok o := by
  cases w <;> simp [order?]

theorem order?_number_iff {v w : Value} {n : Int64} (hv : v.toInt64? = some n)
    (hw : w.FloatFree) {o : Option Ordering} : v.order? w = .ok o
      ↔ ∃ m, w.toInt64? = some m ∧ o = some (compare n.toInt m.toInt) := by
  rcases eq_of_toInt64? hv with rfl | ⟨b, rfl, rfl⟩ <;>
    cases hw <;> simp [order?, numeric?, Numeric.order?, toInt64?] <;> exact eq_comm

/-! ### The order of lists -/

section Items

variable {x y : Value} {xs ys zs : List Value} {o : Option Ordering}

theorem itemsOrder?_cons_nil (x : Value) (xs : List Value) :
    itemsOrder? (x :: xs) [] = .ok (some .gt) := by
  rw [itemsOrder?]

theorem itemsOrder?_cons_iff : itemsOrder? (x :: xs) (y :: ys) = .ok o
    ↔ x.equal y = true ∧ itemsOrder? xs ys = .ok o ∨ x.equal y = false ∧ x.order? y = .ok o := by
  rw [itemsOrder?]
  cases x.equal y <;> simp

theorem itemsOrder?_swap (h : itemsOrder? xs ys = .ok o) (hxs : ∀ x ∈ xs, x.FloatFree)
    (hys : ∀ y ∈ ys, y.FloatFree)
    (hitem : ∀ x ∈ xs, ∀ y : Value, y.FloatFree → ∀ o, x.order? y = .ok o →
      y.order? x = .ok (o.map Ordering.swap)) :
    itemsOrder? ys xs = .ok (o.map Ordering.swap) := by
  induction xs generalizing ys with
  | nil =>
    -- the list that ends first comes first
    obtain rfl := Except.ok.inj h
    cases ys with
    | nil => rfl
    | cons y ys => exact itemsOrder?_cons_nil y ys
  | cons x xs ih =>
    cases ys with
    | nil =>
      rw [itemsOrder?_cons_nil] at h
      obtain rfl := Except.ok.inj h
      rfl
    | cons y ys =>
      obtain ⟨hx, hxs⟩ := List.forall_mem_cons.mp hxs
      obtain ⟨hy, hys⟩ := List.forall_mem_cons.mp hys
      obtain ⟨hhead, htail⟩ := List.forall_mem_cons.mp hitem
      rw [itemsOrder?_cons_iff, hy.equal_comm hx]
      rcases itemsOrder?_cons_iff.mp h with ⟨hxy, hrest⟩ | ⟨hxy, hfirst⟩
      -- equal items are passed over, the first that differ decide
      · exact Or.inl ⟨hxy, ih hrest hxs hys htail⟩
      · exact Or.inr ⟨hxy, hhead y hy o hfirst⟩

theorem exists_of_itemsOrder? (h : itemsOrder? xs ys = .ok o) (hys : ∀ y ∈ ys, y.FloatFree)
    (hitem : ∀ x ∈ xs, ∀ y : Value, y.FloatFree → ∀ o, x.order? y = .ok o →
      ∃ r, o = some r ∧ (r = .eq ↔ x.equal y = true)) :
    ∃ r, o = some r ∧ (r = .eq ↔ itemsEqual xs ys = true) := by
  induction xs generalizing ys with
  | nil =>
    obtain rfl := Except.ok.inj h
    cases ys with
    | nil => exact ⟨.eq, rfl, by simp [itemsEqual]⟩
    | cons y ys => exact ⟨.lt, rfl, by simp [itemsEqual]⟩
  | cons x xs ih =>
    cases ys with
    | nil =>
      rw [itemsOrder?_cons_nil] at h
      exact ⟨.gt, (Except.ok.inj h).symm, by simp [itemsEqual]⟩
    | cons y ys =>
      obtain ⟨hy, hys⟩ := List.forall_mem_cons.mp hys
      obtain ⟨hhead, htail⟩ := List.forall_mem_cons.mp hitem
      rcases itemsOrder?_cons_iff.mp h with ⟨hxy, hrest⟩ | ⟨hxy, hfirst⟩
      · obtain ⟨r, hr, hiff⟩ := ih hrest hys htail
        exact ⟨r, hr, by simp [itemsEqual, hxy, hiff]⟩
      · obtain ⟨r, hr, hiff⟩ := hhead y hy o hfirst
        exact ⟨r, hr, by simp [itemsEqual, hxy, hiff]⟩

theorem itemsOrder?_congr (hsame : List.Forall₂ (fun x y => x.equal y = true) xs ys)
    (h : itemsOrder? xs zs = .ok o) (hxs : ∀ x ∈ xs, x.FloatFree) (hys : ∀ y ∈ ys, y.FloatFree)
    (hzs : ∀ z ∈ zs, z.FloatFree)
    (hitem : ∀ x ∈ xs, ∀ y z : Value, y.FloatFree → z.FloatFree → x.equal y = true →
      ∀ o, x.order? z = .ok o → y.order? z = .ok o) :
    itemsOrder? ys zs = .ok o := by
  induction hsame generalizing zs with
  | nil => exact h
  | @cons x y xs ys hxy _ ih =>
    cases zs with
    | nil =>
      rw [itemsOrder?_cons_nil] at h ⊢
      exact h
    | cons z zs =>
      obtain ⟨hx, hxs⟩ := List.forall_mem_cons.mp hxs
      obtain ⟨hy, hys⟩ := List.forall_mem_cons.mp hys
      obtain ⟨hz, hzs⟩ := List.forall_mem_cons.mp hzs
      obtain ⟨hhead, htail⟩ := List.forall_mem_cons.mp hitem
      -- equal items equal the same, so both lists look at the same item
      rw [itemsOrder?_cons_iff, ← hx.equal_eq hy hz hxy]
      rcases itemsOrder?_cons_iff.mp h with ⟨hxz, hrest⟩ | ⟨hxz, hfirst⟩
      · exact Or.inl ⟨hxz, ih hrest hxs hys hzs htail⟩
      · exact Or.inr ⟨hxz, hhead y z hy hz hxy o hfirst⟩

end Items

/-! ### The order of values -/

namespace FloatFree

variable {u v w : Value} {o : Option Ordering}

/-- **The order of two values the other way round.** -/
theorem order?_swap (hv : v.FloatFree) (hw : w.FloatFree) (h : v.order? w = .ok o) :
    w.order? v = .ok (o.map Ordering.swap) := by
  induction hv generalizing w o with
  | null => exact absurd h order?_null_ne_ok
  | map => exact absurd h order?_map_ne_ok
  | bool | int =>
    obtain ⟨m, hm, rfl⟩ := (order?_number_iff rfl hw).mp h
    refine (order?_number_iff hm (by constructor)).mpr ⟨_, rfl, ?_⟩
    exact congrArg some Std.OrientedCmp.eq_swap.symm
  | str s =>
    obtain ⟨t, rfl, rfl⟩ := order?_str_iff.mp h
    refine order?_str_iff.mpr ⟨s, rfl, ?_⟩
    exact congrArg some Std.OrientedCmp.eq_swap.symm
  | @list xs hxs ih =>
    obtain ⟨ys, rfl, hitems⟩ := order?_list_iff.mp h
    refine order?_list_iff.mpr ⟨xs, rfl, itemsOrder?_swap hitems hxs hw.item ?_⟩
    intro x hx y hy o hxy
    exact ih x hx hy hxy

/-- **An order is always told**, and it is that of equal values exactly if they are equal. -/
theorem exists_of_order? (hv : v.FloatFree) (hw : w.FloatFree) (h : v.order? w = .ok o) :
    ∃ r, o = some r ∧ (r = .eq ↔ v.equal w = true) := by
  induction hv generalizing w o with
  | null => exact absurd h order?_null_ne_ok
  | map => exact absurd h order?_map_ne_ok
  | bool | int =>
    obtain ⟨m, hm, rfl⟩ := (order?_number_iff rfl hw).mp h
    refine ⟨_, rfl, ?_⟩
    rw [equal_number_iff rfl hw, hm, Std.LawfulEqCmp.compare_eq_iff_eq, Int64.toInt_inj,
      Option.some.injEq, eq_comm]
  | str s =>
    obtain ⟨t, rfl, rfl⟩ := order?_str_iff.mp h
    refine ⟨_, rfl, ?_⟩
    rw [equal_str_iff, Std.LawfulEqCmp.compare_eq_iff_eq, str.injEq, eq_comm]
  | list _ ih =>
    obtain ⟨ys, rfl, hitems⟩ := order?_list_iff.mp h
    refine exists_of_itemsOrder? hitems hw.item ?_
    intro x hx y hy o hxy
    exact ih x hx hy hxy

/-- **Equal values have the same order** to all others. -/
theorem order?_congr (hu : u.FloatFree) (hv : v.FloatFree) (hw : w.FloatFree)
    (huv : u.equal v = true) (h : u.order? w = .ok o) : v.order? w = .ok o := by
  induction hu generalizing v w o with
  | null => exact absurd h order?_null_ne_ok
  | map => exact absurd h order?_map_ne_ok
  | bool | int =>
    have hn := (equal_number_iff rfl hv).mp huv
    exact (order?_number_iff hn hw).mpr ((order?_number_iff rfl hw).mp h)
  | str s =>
    obtain rfl := equal_str_iff.mp huv
    exact h
  | list hxs ih =>
    obtain ⟨ys, rfl, hsame⟩ := equal_list_iff.mp huv
    obtain ⟨zs, rfl, hitems⟩ := order?_list_iff.mp h
    have hcongr := itemsOrder?_congr hsame hitems hxs hv.item hw.item
      fun x hx y z hy hz hxy o hxz => ih x hx hy hz hxy hxz
    exact order?_list_iff.mpr ⟨zs, rfl, hcongr⟩

/-- All others have the same order to equal values. -/
theorem order?_congr_right (hu : u.FloatFree) (hv : v.FloatFree) (hw : w.FloatFree)
    (huv : u.equal v = true) (h : w.order? u = .ok o) : w.order? v = .ok o := by
  -- turned round, exchanged on the left and turned back
  have hvw := hu.order?_congr hv hw huv (hw.order?_swap hu h)
  have hback := hv.order?_swap hw hvw
  have htwice : Ordering.swap ∘ Ordering.swap = id := funext fun _ => Ordering.swap_swap
  rwa [Option.map_map, htwice, Option.map_id] at hback

/-- Of values that are equal, neither comes first. -/
theorem equal_eq_false_of_lt (hv : v.FloatFree) (hw : w.FloatFree)
    (h : v.order? w = .ok (some .lt)) : v.equal w = false := by
  obtain ⟨r, hr, hiff⟩ := hv.exists_of_order? hw h
  obtain rfl := Option.some.inj hr
  rw [← Bool.not_eq_true, ← hiff]
  decide

end FloatFree

/-- What comes before what comes before, for lists: the first items that differ are behind those
of the one pair, or those of the other, or both of them. -/
theorem itemsOrder?_trans {xs ys zs : List Value} (hxy : itemsOrder? xs ys = .ok (some .lt))
    (hyz : itemsOrder? ys zs = .ok (some .lt)) (hxs : ∀ x ∈ xs, x.FloatFree)
    (hys : ∀ y ∈ ys, y.FloatFree) (hzs : ∀ z ∈ zs, z.FloatFree)
    (hitem : ∀ x ∈ xs, ∀ y z : Value, y.FloatFree → z.FloatFree →
      x.order? y = .ok (some .lt) → y.order? z = .ok (some .lt) → x.order? z = .ok (some .lt)) :
    itemsOrder? xs zs = .ok (some .lt) := by
  induction xs generalizing ys zs with
  | nil =>
    cases zs with
    | cons z zs => rfl
    | nil =>
      cases ys with
      | nil => cases hxy
      | cons y ys => cases (itemsOrder?_cons_nil y ys).symm.trans hyz
  | cons x xs ih =>
    cases ys with
    | nil => cases (itemsOrder?_cons_nil x xs).symm.trans hxy
    | cons y ys =>
      cases zs with
      | nil => cases (itemsOrder?_cons_nil y ys).symm.trans hyz
      | cons z zs =>
        obtain ⟨hx, hxs⟩ := List.forall_mem_cons.mp hxs
        obtain ⟨hy, hys⟩ := List.forall_mem_cons.mp hys
        obtain ⟨hz, hzs⟩ := List.forall_mem_cons.mp hzs
        obtain ⟨hhead, htail⟩ := List.forall_mem_cons.mp hitem
        rw [itemsOrder?_cons_iff]
        -- which of the two pairs is the first to differ
        rcases itemsOrder?_cons_iff.mp hxy with ⟨hsame, hxy⟩ | ⟨hne, hxy⟩
        · rw [hx.equal_eq hy hz hsame]
          rcases itemsOrder?_cons_iff.mp hyz with ⟨hsame', hyz⟩ | ⟨hne', hyz⟩
          · exact Or.inl ⟨hsame', ih hxy hyz hxs hys hzs htail⟩
          -- only the second pair differs here: the first item may stand for the second one
          · have hsame' := hx.equal_symm hy hsame
            exact Or.inr ⟨hne', hy.order?_congr hx hz hsame' hyz⟩
        -- the first pair differs here, and the second is equal or differs as well
        · have hlt : x.order? z = .ok (some .lt) := by
            rcases itemsOrder?_cons_iff.mp hyz with ⟨hsame', -⟩ | ⟨-, hyz⟩
            · exact hy.order?_congr_right hz hx hsame' hxy
            · exact hhead y z hy hz hxy hyz
          exact Or.inr ⟨hx.equal_eq_false_of_lt hz hlt, hlt⟩

/-- **The order is transitive.** -/
theorem FloatFree.order?_trans {u v w : Value} (hu : u.FloatFree) (hv : v.FloatFree)
    (hw : w.FloatFree) (huv : u.order? v = .ok (some .lt)) (hvw : v.order? w = .ok (some .lt)) :
    u.order? w = .ok (some .lt) := by
  induction hu generalizing v w with
  | null => exact absurd huv order?_null_ne_ok
  | map => exact absurd huv order?_map_ne_ok
  | bool | int =>
    -- numbers and truth values only have an order with one another
    obtain ⟨m, hm, hlt⟩ := (order?_number_iff rfl hv).mp huv
    obtain ⟨k, hk, hlt'⟩ := (order?_number_iff hm hw).mp hvw
    refine (order?_number_iff rfl hw).mpr ⟨k, hk, ?_⟩
    have htrans := Std.TransCmp.lt_trans (Option.some.inj hlt).symm (Option.some.inj hlt').symm
    exact congrArg some htrans.symm
  | str s =>
    obtain ⟨t, rfl, hlt⟩ := order?_str_iff.mp huv
    obtain ⟨r, rfl, hlt'⟩ := order?_str_iff.mp hvw
    refine order?_str_iff.mpr ⟨r, rfl, ?_⟩
    have htrans := Std.TransCmp.lt_trans (Option.some.inj hlt).symm (Option.some.inj hlt').symm
    exact congrArg some htrans.symm
  | list hxs ih =>
    obtain ⟨ys, rfl, hxy⟩ := order?_list_iff.mp huv
    obtain ⟨zs, rfl, hyz⟩ := order?_list_iff.mp hvw
    refine order?_list_iff.mpr ⟨zs, rfl, itemsOrder?_trans hxy hyz hxs hv.item hw.item ?_⟩
    intro x hx y z hy hz h h'
    exact ih x hx hy hz h h'

end Value

/-! ### Comparisons -/

/-- What the six comparisons say of two values of the given order. -/
structure Operation.Tells (l r : Value) (o : Ordering) : Prop where
  /-- `l < r` -/
  lt : Operation.lt l r = .ok (.bool (o == .lt))
  /-- `l <= r` -/
  le : Operation.le l r = .ok (.bool (o != .gt))
  /-- `l > r` -/
  gt : Operation.gt l r = .ok (.bool (o == .gt))
  /-- `l >= r` -/
  ge : Operation.ge l r = .ok (.bool (o != .lt))
  /-- `l == r` -/
  eq : Operation.eq l r = .ok (.bool (o == .eq))
  /-- `l != r` -/
  ne : Operation.ne l r = .ok (.bool (o != .eq))

theorem Operation.tells_of_order? {l r : Value} {o : Ordering} (h : l.order? r = .ok (some o))
    (hiff : o = .eq ↔ l.equal r = true) : Operation.Tells l r o := by
  have hequal : l.equal r = (o == .eq) := by
    rw [Bool.eq_iff_iff, beq_iff_eq]
    exact hiff.symm
  have hordered (holds : Ordering → Bool) :
      Operation.ordered holds l r = .ok (.bool (holds o)) := by
    rw [Operation.ordered, h]
    rfl
  exact {
    lt := hordered _
    le := hordered _
    gt := hordered _
    ge := hordered _
    eq := by rw [Operation.eq, hequal]
    ne := by rw [Operation.ne, hequal]; rfl }

/-- **Comparisons of values without floats do not contradict one another.**  Equality is an
equivalence.  Two values have an order if they have one the other way round; it is then the
reverse, that of equal values exactly if they are equal, and what all six comparisons tell.  The
order is transitive, and equal values have the same order to all others. -/
theorem order_coherent {a b c : Value} (ha : a.FloatFree) (hb : b.FloatFree) (hc : c.FloatFree) :
    (a.equal a = true ∧ a.equal b = b.equal a
      ∧ (a.equal b = true → b.equal c = true → a.equal c = true))
    ∧ ((∃ fault, a.order? b = .error fault) ↔ ∃ fault, b.order? a = .error fault)
    ∧ (∀ o, a.order? b = .ok o → ∃ r, o = some r ∧ (r = .eq ↔ a.equal b = true)
        ∧ b.order? a = .ok (some r.swap)
        ∧ Operation.Tells a b r ∧ Operation.Tells b a r.swap)
    ∧ (a.order? b = .ok (some .lt) → b.order? c = .ok (some .lt) → a.order? c = .ok (some .lt))
    ∧ (a.equal b = true → ∀ o, (a.order? c = .ok o ↔ b.order? c = .ok o)
        ∧ (c.order? a = .ok o ↔ c.order? b = .ok o)) := by
  refine ⟨⟨ha.equal_refl, ha.equal_comm hb, ha.equal_trans hb hc⟩, ?_, ?_,
    ha.order?_trans hb hc, ?_⟩
  · -- a value the one way round is a value the other way round
    have hok {v w : Value} (hv : v.FloatFree) (hw : w.FloatFree) :
        (∃ fault, v.order? w = .error fault) → ∃ fault, w.order? v = .error fault := by
      rintro ⟨fault, h⟩
      cases h' : w.order? v with
      | error fault => exact ⟨fault, rfl⟩
      | ok o =>
        rw [hw.order?_swap hv h'] at h
        cases h
    exact ⟨hok ha hb, hok hb ha⟩
  · intro o h
    obtain ⟨r, rfl, hiff⟩ := ha.exists_of_order? hb h
    have hswap : b.order? a = .ok (some r.swap) := ha.order?_swap hb h
    -- the reverse is an order too, so all that was said of the one holds of it
    obtain ⟨r', hr', hiff'⟩ := hb.exists_of_order? ha hswap
    obtain rfl := Option.some.inj hr'
    exact ⟨r, rfl, hiff, hswap, Operation.tells_of_order? h hiff,
      Operation.tells_of_order? hswap hiff'⟩
  · intro h o
    have h' := ha.equal_symm hb h
    exact ⟨⟨ha.order?_congr hb hc h, hb.order?_congr ha hc h'⟩,
      ⟨ha.order?_congr_right hb hc h, hb.order?_congr_right ha hc h'⟩⟩

/-- Three lists of which each comes before the next: the items that differ are behind others that
are equal, mappings with their entries in another order, and a truth value and a number.  The
mappings themselves have no order. -/
theorem order_coherent_of_lists :
    let m : Value := .map [("p", .null), ("q", .bool true)]
    let m' : Value := .map [("q", .int 1), ("p", .null)]
    let a : Value := .list [m, .bool false, .str "s"]
    let b : Value := .list [m', .int 0, .str "t"]
    let c : Value := .list [m, .int 2]
    (a.FloatFree ∧ b.FloatFree ∧ c.FloatFree)
      ∧ m.equal m' = true ∧ m'.equal m = true
      ∧ (∃ fault, m.order? m' = .error fault) ∧ (∃ fault, m'.order? m = .error fault)
      ∧ b.order? a = .ok (some .gt) ∧ a.order? c = .ok (some .lt)
      ∧ Operation.ge b a = .ok (.bool true) := by
  intro m m' a b c
  have hm : m.FloatFree := .map (by decide) (by simp [Value.FloatFree.null, Value.FloatFree.bool])
  have hm' : m'.FloatFree := .map (by decide) (by simp [Value.FloatFree.null, Value.FloatFree.int])
  have ha : a.FloatFree := .list (by simp [hm, Value.FloatFree.bool, Value.FloatFree.str])
  have hb : b.FloatFree := .list (by simp [hm', Value.FloatFree.int, Value.FloatFree.str])
  have hc : c.FloatFree := .list (by simp [hm, Value.FloatFree.int])
  have hequal : m.equal m' = true := by rfl
  have hab : a.order? b = .ok (some .lt) := by rfl
  have hbc : b.order? c = .ok (some .lt) := by rfl
  -- the mappings are equal and have no order; the lists have one, through what follows
  obtain ⟨⟨-, hcomm, -⟩, herror, -, -, -⟩ := order_coherent hm hm' hm
  obtain ⟨-, -, hall, htrans, -⟩ := order_coherent ha hb hc
  obtain ⟨r, hr, -, hswap, -, htells⟩ := hall _ hab
  obtain rfl := Option.some.inj hr
  have hfault : ∃ fault, m.order? m' = .error fault := ⟨_, rfl⟩
  exact ⟨⟨ha, hb, hc⟩, hequal, hcomm ▸ hequal, hfault, herror.mp hfault, hswap, htrans hab hbc,
    htells.ge⟩

end ConfigTree
