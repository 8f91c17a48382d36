import ConfigTree.Proofs.Walk.Keys
import ConfigTree.Proofs.Walk.Requests

/-!
# The rounds of a loop

A loop goes in rounds, one for each of its values.  A round finds the key of its instance, then
walks the template under that key, and stores what it gets.  All of a round sees the value, its
position and the list of all values as the innermost loop variables, and of the rounds before it
nothing but what they left in the index.

The rounds themselves do not mind if a key comes twice.  The loop does: it goes on as long as the
keys are new, and ends with the first that is not.

## Main definitions

* `Expansion` — a loop whose values are known; `Expansion.Starts` — how one comes about.
* `Expansion.Round`, `Expansion.Rounds` — one round, and the rounds from the first on.
* `Expansion.Repeats` — the first key that comes a second time.
* `Expansion.Unfailing` — nothing but a repeated key can end the loop early.

## Main results

* `Expansion.run_rest_of_rounds` — after rounds with new keys the loop goes on with the rest.
* `Expansion.exists_stop` — how far the rounds go.
* `run_walkInstances_eq_ok_iff` — the loop goes well if all rounds do and no key comes twice.
* `walkInstances_inRounds` — one instance for each value.
-/

namespace ConfigTree

open Walk

/-- A loop whose values are known. -/
structure Expansion where
  /-- What stays the same in all of the walk. -/
  surroundings : Surroundings
  /-- Gets the base that a directive imports. -/
  fetch : String → String → TreePath → Scope → Walk Mapping
  /-- The place of the mapping with the loop. -/
  path : TreePath
  /-- The scope around the loop. -/
  scope : Scope
  /-- The loop. -/
  loop : Loop
  /-- The values. -/
  values : List Value

namespace Expansion

variable (x : Expansion)

/-- The directive `v` is this loop, and its values are known at `r` when its walk starts at
`p`. -/
def Starts (v : Value) (p r : Progress) : Prop :=
  ∃ fields, v = .map fields ∧ Loop.ofValue (.map fields) = .ok x.loop ∧
    (x.surroundings.loopValues (walkEntry x.surroundings x.fetch fields "values") x.loop.values
      x.path x.scope).run p = (.ok x.values, r)

/-- What expressions can use in the round for the value at a position. -/
def scopeAt (i : Nat) (item : Value) : Scope := x.scope.atItem x.values item i

/-- The key of the round for the value at a position: the position itself, or what the expression
for the keys is worth in that round. -/
def HasKey (p : Progress) (i : Nat) (item : Value) (k : String) : Prop :=
  match x.loop.key with
  | none => k = toString i
  | some source =>
    ∃ v, (x.surroundings.environmentAt p.texts p.index (x.scopeAt i item) x.path).evaluate source
      = .ok v ∧ instanceKey? v = some k

/-- What has been done when the key is known. -/
def keyed (p : Progress) : Progress := if x.loop.key.isSome then p.evaluating else p

/-- The walk of the template under a key. -/
def walkTemplate (i : Nat) (item : Value) (k : String) : Walk Value :=
  walk x.surroundings x.fetch (.map x.loop.template) (x.path.entry k) (x.scopeAt i item)

/-- The round for the value at position `i`, from `p` to `q`, makes the instance `w` under the
key `k`. -/
def Round (i : Nat) (p : Progress) (k : String) (w : Value) (q : Progress) : Prop :=
  ∃ item r, x.values[i]? = some item ∧ x.HasKey p i item k
    ∧ (x.walkTemplate i item k).run (x.keyed p) = (.ok w, r)
    ∧ q = r.withIndex (r.index.put (x.path.entry k) w)

/-- The rounds from the first on, one after the other, with what they made. -/
inductive Rounds (p : Progress) : Mapping → Progress → Prop
  /-- No round. -/
  | nil : Rounds p [] p
  /-- One more round. -/
  | snoc {made : Mapping} {q r : Progress} {k : String} {w : Value} :
    Rounds p made q → x.Round made.length q k w r → Rounds p (made ++ [(k, w)]) r

/-- After rounds with different keys, the key of the next round is one of theirs. -/
def Repeats (p : Progress) (k : String) : Prop :=
  ∃ made q item, x.Rounds p made q ∧ made.keys.Nodup ∧ x.values[made.length]? = some item
    ∧ x.HasKey q made.length item k ∧ k ∈ made.keys

/-- After rounds with different keys, the next round has a key, and its walk goes well unless that
is one of theirs. -/
def Unfailing (p : Progress) : Prop :=
  ∀ made q item, x.Rounds p made q → made.keys.Nodup → x.values[made.length]? = some item →
    ∃ k, x.HasKey q made.length item k
      ∧ (k ∉ made.keys → ∃ w r, (x.walkTemplate made.length item k).run (x.keyed q) = (.ok w, r))

/-- What the loop still does after it made some instances. -/
def rest (made : Mapping) : Walk Mapping :=
  x.surroundings.instances (walk x.surroundings x.fetch (.map x.loop.template)) x.loop.key x.path
    (x.scope.inLoop x.values) (x.values.drop made.length) made.length made

variable {x} {p q r : Progress} {i : Nat} {item w : Value} {k : String} {made generated : Mapping}

/-! ### The key of a round -/

theorem run_loopKey_eq_ok_iff :
    (x.surroundings.loopKey x.loop.key i x.path (x.scopeAt i item)).run p = (.ok k, q)
      ↔ x.HasKey p i item k ∧ q = x.keyed p := by
  unfold HasKey keyed
  cases x.loop.key with
  | none =>
    rw [Surroundings.loopKey, run_pure_eq_ok_iff]
    exact and_congr eq_comm eq_comm
  | some source =>
    constructor
    · intro h
      obtain ⟨v, hv, hkey, hq⟩ := Surroundings.run_loopKey_eq_ok h
      exact ⟨⟨v, hv, hkey⟩, hq⟩
    · rintro ⟨⟨v, hv, hkey⟩, rfl⟩
      rw [Surroundings.loopKey, run_bind_of_ok (Surroundings.run_environmentNow _ _ _ _)]
      simp only [hv, hkey, run_pure, Option.isSome_some, if_true]

/-- A round has one key. -/
theorem HasKey.unique {l : String} (hk : x.HasKey p i item k) (hl : x.HasKey p i item l) :
    k = l := by
  have hrun := (run_loopKey_eq_ok_iff.mpr ⟨hk, rfl⟩).symm.trans
    (run_loopKey_eq_ok_iff.mpr ⟨hl, rfl⟩)
  exact Except.ok.inj (Prod.mk.inj hrun).1

/-! ### The rest of the loop -/

theorem nodup_keys_snoc :
    (Entries.keys (made ++ [(k, w)])).Nodup ↔ made.keys.Nodup ∧ k ∉ made.keys := by
  rw [Entries.keys, List.map_append, ← Entries.keys, List.map_singleton, List.nodup_append]
  constructor
  · rintro ⟨hu, -, hnew⟩
    exact ⟨hu, fun hk => hnew k hk k List.mem_cons_self rfl⟩
  · rintro ⟨hu, hk⟩
    refine ⟨hu, List.nodup_singleton k, ?_⟩
    rintro l hl m hm rfl
    obtain rfl : l = k := List.mem_singleton.mp hm
    exact hk hl

theorem drop_eq_cons (h : x.values[i]? = some item) :
    x.values.drop i = item :: x.values.drop (i + 1) := by
  obtain ⟨hi, hitem⟩ := List.getElem?_eq_some_iff.mp h
  rw [List.drop_eq_getElem_cons hi, hitem]

theorem rest_of_length (h : made.length = x.values.length) : x.rest made = pure made := by
  rw [rest, h, List.drop_length, Surroundings.instances]

theorem rest_eq (hitem : x.values[made.length]? = some item) :
    x.rest made = (do
      let k ← x.surroundings.loopKey x.loop.key made.length x.path (x.scopeAt made.length item)
      if made.has k then fail x.path (.duplicateKey k)
      else
        let w ← x.walkTemplate made.length item k
        onIndex (·.put (x.path.entry k) w)
        x.rest (made ++ [(k, w)])) := by
  rw [rest, drop_eq_cons hitem, Surroundings.instances]
  congr 1
  funext k
  split
  · rfl
  · next hk =>
    -- a new key goes to the end
    have hnew : made.get? k = none := by
      rw [Entries.get?_eq_none_iff, Entries.mem_keys_iff]
      exact hk
    simp only [Entries.insert, Entries.alter_of_get?_eq_none hnew, rest, List.length_append,
      List.length_singleton]
    rfl

theorem run_rest_of_round (hround : x.Round made.length p k w q) (hk : k ∉ made.keys) :
    (x.rest made).run p = (x.rest (made ++ [(k, w)])).run q := by
  obtain ⟨item, r, hitem, hkey, hwalk, rfl⟩ := hround
  rw [Entries.mem_keys_iff] at hk
  rw [rest_eq hitem, run_bind_of_ok (run_loopKey_eq_ok_iff.mpr ⟨hkey, rfl⟩), if_neg hk,
    run_bind_of_ok hwalk, run_onIndex_bind]

/-- **After rounds with different keys the loop goes on with the rest.** -/
theorem run_rest_of_rounds (h : x.Rounds p made q) (hu : made.keys.Nodup) :
    (x.rest []).run p = (x.rest made).run q := by
  induction h with
  | nil => rfl
  | @snoc made q r k w _ hround ih =>
    obtain ⟨hmade, hk⟩ := nodup_keys_snoc.mp hu
    rw [ih hmade, run_rest_of_round hround hk]

theorem run_rest_of_repeated (hitem : x.values[made.length]? = some item)
    (hkey : x.HasKey p made.length item k) (hk : k ∈ made.keys) :
    (x.rest made).run p = (.error ⟨x.path, .duplicateKey k⟩, x.keyed p) := by
  rw [Entries.mem_keys_iff] at hk
  rw [rest_eq hitem, run_bind_of_ok (run_loopKey_eq_ok_iff.mpr ⟨hkey, rfl⟩), if_pos hk, run_fail]

/-! ### How far the rounds go -/

variable (x) in
/-- After the rounds that made `made` there is no other. -/
inductive Stops (made : Mapping) (p : Progress) : Prop
  /-- All values had their round. -/
  | complete : made.length = x.values.length → Stops made p
  /-- The next one has no key. -/
  | keyless {item : Value} : x.values[made.length]? = some item →
    (∀ k, ¬ x.HasKey p made.length item k) → Stops made p
  /-- The next one has a key that was there before. -/
  | repeated {item : Value} {k : String} : x.values[made.length]? = some item →
    x.HasKey p made.length item k → k ∈ made.keys → Stops made p
  /-- The next one has a new key, but its walk fails. -/
  | failed {item : Value} {k : String} {e : DocumentError} {q : Progress} :
    x.values[made.length]? = some item → x.HasKey p made.length item k → k ∉ made.keys →
    (x.walkTemplate made.length item k).run (x.keyed p) = (.error e, q) → Stops made p

/-- There is a next round, or the rounds stop. -/
theorem stops_or_exists_round (made : Mapping) (p : Progress) (h : made.length ≤ x.values.length) :
    x.Stops made p ∨ ∃ k w q, k ∉ made.keys ∧ x.Round made.length p k w q := by
  rcases h.eq_or_lt with heq | hlt
  · exact .inl (.complete heq)
  have hitem : x.values[made.length]? = some x.values[made.length] := List.getElem?_eq_getElem hlt
  by_cases hkeyless : ∀ k, ¬ x.HasKey p made.length x.values[made.length] k
  · exact .inl (.keyless hitem hkeyless)
  obtain ⟨k, hkey⟩ := not_forall_not.mp hkeyless
  by_cases hk : k ∈ made.keys
  · exact .inl (.repeated hitem hkey hk)
  rcases hwalk : (x.walkTemplate made.length x.values[made.length] k).run (x.keyed p)
    with ⟨e | w, q⟩
  · exact .inl (.failed hitem hkey hk hwalk)
  · exact .inr ⟨k, w, _, hk, _, q, hitem, hkey, hwalk, rfl⟩

theorem Round.lt (h : x.Round i p k w q) : i < x.values.length := by
  obtain ⟨item, r, hitem, -⟩ := h
  exact (List.getElem?_eq_some_iff.mp hitem).1

/-- **How far the rounds go**: until they stop, and up to there with different keys. -/
theorem exists_stop (h : x.Rounds p made q) (hu : made.keys.Nodup)
    (hlength : made.length ≤ x.values.length) :
    ∃ all r, x.Rounds p all r ∧ all.keys.Nodup ∧ x.Stops all r := by
  -- each round takes one of the values
  induction hn : x.values.length - made.length generalizing made q with
  | zero => exact ⟨made, q, h, hu, .complete (by omega)⟩
  | succ n ih =>
    rcases stops_or_exists_round made q hlength with hstop | ⟨k, w, r, hk, hround⟩
    · exact ⟨made, q, h, hu, hstop⟩
    have hlt := hround.lt
    have hnext : (made ++ [(k, w)]).length = made.length + 1 := by simp
    exact ih (h.snoc hround) (nodup_keys_snoc.mpr ⟨hu, hk⟩) (by omega) (by omega)

/-- **The loop goes well** if all rounds do and no key comes twice. -/
theorem run_rest_eq_ok_iff :
    (x.rest []).run p = (.ok generated, q)
      ↔ x.Rounds p generated q ∧ generated.length = x.values.length ∧ generated.keys.Nodup := by
  constructor
  · intro h
    -- the rounds up to where the loop stops, one way or another
    obtain ⟨made, r, hrounds, hu, hstop⟩ := exists_stop .nil List.nodup_nil (Nat.zero_le _)
    rw [run_rest_of_rounds hrounds hu] at h
    cases hstop with
    | complete hlength =>
      rw [rest_of_length hlength] at h
      obtain ⟨rfl, rfl⟩ := run_pure_eq_ok_iff.mp h
      exact ⟨hrounds, hlength, hu⟩
    | keyless hitem hkeyless =>
      rw [rest_eq hitem, run_bind_eq_ok_iff] at h
      obtain ⟨k, t, hkey, -⟩ := h
      exact absurd (run_loopKey_eq_ok_iff.mp hkey).1 (hkeyless k)
    | repeated hitem hkey hk =>
      rw [run_rest_of_repeated hitem hkey hk] at h
      cases h
    | failed hitem hkey hk hwalk =>
      rw [Entries.mem_keys_iff] at hk
      rw [rest_eq hitem, run_bind_of_ok (run_loopKey_eq_ok_iff.mpr ⟨hkey, rfl⟩), if_neg hk,
        run_bind_of_error hwalk] at h
      cases h
  · rintro ⟨hrounds, hlength, hu⟩
    rw [run_rest_of_rounds hrounds hu, rest_of_length hlength, run_pure]

/-- **A loop that nothing else can end** ends with the first key that comes a second time. -/
theorem run_rest_of_unfailing (h : x.Unfailing p) :
    (∃ generated q, (x.rest []).run p = (.ok generated, q))
      ∨ ∃ k q, x.Repeats p k ∧ (x.rest []).run p = (.error ⟨x.path, .duplicateKey k⟩, q) := by
  obtain ⟨made, r, hrounds, hu, hstop⟩ :=
    exists_stop (x := x) (p := p) .nil List.nodup_nil (Nat.zero_le _)
  cases hstop with
  | complete hlength =>
    exact .inl ⟨made, r, run_rest_eq_ok_iff.mpr ⟨hrounds, hlength, hu⟩⟩
  | keyless hitem hkeyless =>
    obtain ⟨k, hkey, -⟩ := h made r _ hrounds hu hitem
    exact absurd hkey (hkeyless k)
  | @repeated item k hitem hkey hk =>
    -- a key that is there already is the only way to stop early that is left
    refine .inr ⟨k, x.keyed r, ⟨made, r, item, hrounds, hu, hitem, hkey, hk⟩, ?_⟩
    rw [run_rest_of_rounds hrounds hu, run_rest_of_repeated hitem hkey hk]
  | failed hitem hkey hk hwalk =>
    obtain ⟨l, hlkey, hgood⟩ := h made r _ hrounds hu hitem
    obtain rfl := hkey.unique hlkey
    obtain ⟨w, t, hw⟩ := hgood hk
    rw [hw] at hwalk
    cases hwalk

theorem run_rest_of_repeats (h : x.Repeats p k) :
    ∃ q, (x.rest []).run p = (.error ⟨x.path, .duplicateKey k⟩, q) := by
  obtain ⟨made, r, item, hrounds, hu, hitem, hkey, hk⟩ := h
  exact ⟨_, by rw [run_rest_of_rounds hrounds hu, run_rest_of_repeated hitem hkey hk]⟩

/-! ### What the rounds made -/

/-- **Each instance is made in its round**, after the rounds that made those before it. -/
theorem Rounds.round (h : x.Rounds p made q) (hi : made[i]? = some (k, w)) :
    ∃ r t, x.Rounds p (made.take i) r ∧ x.Round i r k w t := by
  induction h with
  | nil => simp at hi
  | @snoc made q r l v hrounds hround ih =>
    rcases Nat.lt_trichotomy i made.length with hlt | rfl | hgt
    · rw [List.getElem?_append_left hlt] at hi
      rw [List.take_append_of_le_length hlt.le]
      exact ih hi
    · obtain ⟨rfl, rfl⟩ : l = k ∧ v = w := by simpa using hi
      rw [List.take_left]
      exact ⟨q, r, hrounds, hround⟩
    · have hlen : (made ++ [(l, v)]).length ≤ i := by simpa using hgt
      rw [List.getElem?_eq_none hlen] at hi
      cases hi

/-- Without an expression for the keys they are the positions. -/
theorem Rounds.keys_eq (h : x.Rounds p made q) (hkey : x.loop.key = none) :
    made.keys = (List.range made.length).map toString := by
  induction h with
  | nil => rfl
  | @snoc made q r k w _ hround ih =>
    obtain ⟨item, t, -, hk, -⟩ := hround
    rw [HasKey, hkey] at hk
    obtain rfl : k = toString made.length := hk
    simp only [Entries.keys, List.map_append, List.length_append, List.length_singleton,
      List.range_succ] at ih ⊢
    rw [ih]
    rfl

/-- **Positions never come twice.** -/
theorem not_repeats_of_positions (hkey : x.loop.key = none) (k : String) : ¬ x.Repeats p k := by
  rintro ⟨made, q, item, hrounds, -, -, hk, hmem⟩
  rw [HasKey, hkey] at hk
  rw [hrounds.keys_eq hkey, List.mem_map] at hmem
  obtain ⟨j, hj, heq⟩ := hmem
  have hsame : j = made.length := Nat.repr_inj.mp (heq.trans hk)
  exact absurd (List.mem_range.mp hj) (by omega)

end Expansion

/-! ### Loop variables -/

/-- **What a round sees**: its value, the position of that and all values, whatever the scope
around the loop; and under any other name what stands for it outside. -/
theorem Sight.lookup_atItem (scope : Scope) (values : List Value) (item : Value) (i : Nat)
    (root current : Value) :
    let inner : Sight := ⟨scope.atItem values item i, root, current⟩
    inner.lookup "item" = .ok item ∧ inner.lookup "index" = .ok (.int (Int64.ofNat i))
      ∧ inner.lookup "values" = .ok (.list values)
      ∧ ∀ name, name ∉ ["item", "index", "values"] →
        inner.lookup name = Sight.lookup ⟨scope, root, current⟩ name := by
  refine ⟨rfl, rfl, rfl, fun name hname => ?_⟩
  simp only [List.mem_cons, List.not_mem_nil, or_false, not_or] at hname
  obtain ⟨hitem, hindex, hvalues⟩ := hname
  have hinner : Entries.get? [("item", item), ("index", .int (Int64.ofNat i))] name = none := by
    simp [Entries.get?_cons, Ne.symm hitem, Ne.symm hindex]
  have houter : Entries.get? [("values", Value.list values)] name = none := by
    simp [Entries.get?_cons, Ne.symm hvalues]
  simp only [lookup, Scope.lookupIn?, Scope.atItem, Scope.inLoop, Scope.enter, beq_self_eq_true,
    List.filter_cons_of_pos, Scope.lookup?, hinner, houter]

/-! ### Loops -/

section Loops

variable {s : Surroundings} {fetch : String → String → TreePath → Scope → Walk Mapping}
  {v : Value} {path : TreePath} {scope : Scope} {p q r : Progress} {loop : Loop}
  {values : List Value} {generated : Mapping}

theorem run_walkInstances_of_starts
    (h : Expansion.Starts ⟨s, fetch, path, scope, loop, values⟩ v p r) :
    (walkInstances s fetch v path scope).run p
      = (Expansion.rest ⟨s, fetch, path, scope, loop, values⟩ []).run r := by
  obtain ⟨fields, rfl, hloop, hvalues⟩ := h
  have htemplate : walkEntry s fetch fields "template" = walk s fetch (.map loop.template) := by
    funext place inner
    rw [walkEntry_eq, Loop.get?_template_of_ofValue hloop]
  rw [walkInstances, hloop]
  dsimp only at hvalues ⊢
  rw [run_bind_of_ok hvalues, htemplate]
  rfl

theorem exists_starts (h : (walkInstances s fetch v path scope).run p = (.ok generated, q)) :
    ∃ loop values r, Expansion.Starts ⟨s, fetch, path, scope, loop, values⟩ v p r := by
  by_cases hv : v.isMap = true
  · obtain ⟨fields, rfl⟩ := Value.isMap_iff.mp hv
    rw [walkInstances] at h
    split at h
    · simp at h
    · next loop hloop =>
      rw [run_bind_eq_ok_iff] at h
      obtain ⟨values, r, hvalues, -⟩ := h
      exact ⟨loop, values, r, fields, rfl, hloop, hvalues⟩
  · rw [Bool.not_eq_true] at hv
    simp [walkInstances_of_not_isMap hv] at h

/-- **A loop goes well** if its values can be had, all rounds go well and no key comes twice. -/
theorem run_walkInstances_eq_ok_iff :
    (walkInstances s fetch v path scope).run p = (.ok generated, q)
      ↔ ∃ loop values r, Expansion.Starts ⟨s, fetch, path, scope, loop, values⟩ v p r
        ∧ Expansion.Rounds ⟨s, fetch, path, scope, loop, values⟩ r generated q
        ∧ generated.length = values.length ∧ generated.keys.Nodup := by
  constructor
  · intro h
    obtain ⟨loop, values, r, hstarts⟩ := exists_starts h
    rw [run_walkInstances_of_starts hstarts] at h
    exact ⟨loop, values, r, hstarts, Expansion.run_rest_eq_ok_iff.mp h⟩
  · rintro ⟨loop, values, r, hstarts, hrounds⟩
    rw [run_walkInstances_of_starts hstarts]
    exact Expansion.run_rest_eq_ok_iff.mpr hrounds

end Loops

/-- **One instance for each value.**  A loop goes well exactly if its values can be had, the rounds
for all of them go well, and no key comes twice; what the rounds made is what it makes.

The instance at a position is what the walk of the template gave, under the key of that round and
in the scope in which the key was found.  There the loop variables stand for the value of the
round, its position and all values, and all other names for what they stand for outside.

If nothing else ends the loop early, it ends with a duplicate key exactly if one comes twice, and
names the first that does; otherwise it goes well.  Positions as keys never come twice. -/
theorem walkInstances_inRounds (s : Surroundings)
    (fetch : String → String → TreePath → Scope → Walk Mapping) (v : Value) (path : TreePath)
    (scope : Scope) (p : Progress) :
    (∀ generated q, (walkInstances s fetch v path scope).run p = (.ok generated, q)
      ↔ ∃ loop values r, Expansion.Starts ⟨s, fetch, path, scope, loop, values⟩ v p r
        ∧ Expansion.Rounds ⟨s, fetch, path, scope, loop, values⟩ r generated q
        ∧ generated.length = values.length ∧ generated.keys.Nodup)
    ∧ ∀ loop values r,
      let x : Expansion := ⟨s, fetch, path, scope, loop, values⟩
      x.Starts v p r →
      (∀ generated q i k w, x.Rounds r generated q → generated[i]? = some (k, w) →
        ∃ item t u, values[i]? = some item ∧ x.Rounds r (generated.take i) t ∧ x.HasKey t i item k
          ∧ (walk s fetch (.map loop.template) (path.entry k) (scope.atItem values item i)).run
              (x.keyed t) = (.ok w, u))
      ∧ (∀ item i root current,
        let inner : Sight := ⟨scope.atItem values item i, root, current⟩
        inner.lookup "item" = .ok item ∧ inner.lookup "index" = .ok (.int (Int64.ofNat i))
          ∧ inner.lookup "values" = .ok (.list values)
          ∧ ∀ name, name ∉ ["item", "index", "values"] →
            inner.lookup name = Sight.lookup ⟨scope, root, current⟩ name)
      ∧ (x.Unfailing r →
        (∀ k, (∃ q, (walkInstances s fetch v path scope).run p
            = (.error ⟨path, .duplicateKey k⟩, q)) ↔ x.Repeats r k)
        ∧ ((∃ generated q, (walkInstances s fetch v path scope).run p = (.ok generated, q))
          ↔ ∀ k, ¬ x.Repeats r k))
      ∧ (loop.key = none → ∀ k, ¬ x.Repeats r k) := by
  refine ⟨fun _ _ => run_walkInstances_eq_ok_iff, fun loop values r => ?_⟩
  intro x hstarts
  rw [run_walkInstances_of_starts hstarts]
  refine ⟨?_, ?_, ?_, fun hkey => Expansion.not_repeats_of_positions (x := x) hkey⟩
  · intro generated q i k w hrounds hi
    obtain ⟨t, u, hbefore, item, z, hitem, hkey, hwalk, -⟩ := hrounds.round hi
    exact ⟨item, t, z, hitem, hbefore, hkey, hwalk⟩
  · intro item i root current
    exact Sight.lookup_atItem scope values item i root current
  · intro hunfailing
    -- either all rounds go well, or some key comes twice, and these exclude each other
    have hends := Expansion.run_rest_of_unfailing hunfailing
    refine ⟨fun k => ⟨?_, Expansion.run_rest_of_repeats⟩, ?_, fun hnone => ?_⟩
    · rintro ⟨q, hq⟩
      rcases hends with ⟨generated, t, hgood⟩ | ⟨l, t, hrepeats, hbad⟩
      · rw [hgood] at hq
        cases hq
      · rw [hbad] at hq
        cases hq
        exact hrepeats
    · rintro ⟨generated, q, hgood⟩ k hrepeats
      obtain ⟨t, hbad⟩ := Expansion.run_rest_of_repeats hrepeats
      rw [hgood] at hbad
      cases hbad
    · rcases hends with hgood | ⟨k, q, hrepeats, -⟩
      · exact hgood
      · exact absurd hrepeats (hnone k)

/-- A loop over three numbers with themselves as keys, the last of which was there before. -/
theorem walkInstances_inRounds_of_three :
    let s : Surroundings := ⟨.empty, .empty, .keyless "fernet", Range.halting⟩
    let fetch := fun _ _ _ _ => pure []
    let v : Value := .map
      [("values", .list [.int 7, .int 8, .int 7]), ("template", .map []), ("key", .str "item")]
    ∃ q, (walkInstances s fetch v [] []).run (.start none [])
      = (.error ⟨[], .duplicateKey "7"⟩, q) := by
  have hparse : parseExpression "item" = .ok (.name "item") := by cbv
  intro s fetch v
  let values : List Value := [.int 7, .int 8, .int 7]
  let x : Expansion := ⟨s, fetch, [], [], ⟨.sequence values, [], some "item"⟩, values⟩
  obtain ⟨r, hstarts⟩ : ∃ r, x.Starts v (.start none []) r := by
    refine ⟨_, _, rfl, by cbv, Prod.ext ?_ rfl⟩
    rfl
  have hkey (q : Progress) (i : Nat) (n : Int64) :
      x.HasKey q i (.int n) (Value.int n).text :=
    ⟨.int n, by rw [Environment.evaluate_of_parse hparse rfl]; rfl, rfl⟩
  have hwalk (i : Nat) (item : Value) (k : String) (q : Progress) :
      ∃ t, (x.walkTemplate i item k).run q = (.ok (.map []), t) := ⟨_, rfl⟩
  have hround (q : Progress) (i : Nat) (n : Int64) (hi : values[i]? = some (.int n)) :
      ∃ t, x.Round i q (Value.int n).text (.map []) t := by
    obtain ⟨t, ht⟩ := hwalk i (.int n) (Value.int n).text (x.keyed q)
    exact ⟨_, .int n, t, hi, hkey q i n, ht, rfl⟩
  obtain ⟨-, hall⟩ := walkInstances_inRounds s fetch v [] [] (.start none [])
  obtain ⟨-, -, hends, -⟩ := hall x.loop values r hstarts
  refine ((hends ?_).1 "7").mpr ?_
  · -- every value is a number, and the template is empty
    intro made q item _ _ hitem
    obtain ⟨n, rfl⟩ : ∃ n, item = .int n := by
      have hmem := List.mem_of_getElem? hitem
      simp only [values, List.mem_cons, List.not_mem_nil, or_false] at hmem
      rcases hmem with rfl | rfl | rfl <;> exact ⟨_, rfl⟩
    exact ⟨_, hkey q made.length n, fun _ => ⟨_, hwalk _ _ _ _⟩⟩
  · -- after two rounds the first key comes again
    obtain ⟨t, hfirst⟩ := hround r 0 7 rfl
    obtain ⟨u, hsecond⟩ := hround t 1 8 rfl
    have hrounds : x.Rounds r [("7", .map []), ("8", .map [])] u :=
      (Expansion.Rounds.nil.snoc hfirst).snoc hsecond
    exact ⟨_, u, .int 7, hrounds, by decide, rfl, hkey u 2 7, by decide⟩

end ConfigTree
