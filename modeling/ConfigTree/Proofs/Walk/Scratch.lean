import ConfigTree.Proofs.Walk.Locality
import ConfigTree.Proofs.Walk.Rounds

/-!
# The scratch entry of a loop

The values of a loop that are written as a list of nodes are resolved in the index, under a key of
the mapping with the loop that is taken away again when they are known.  The walk of the list is
local, so that it leaves its traces under that key only; and a key that was not there before goes
to the end, from where it can be taken away without a change to the order of the others.  So the
rounds of the loop start from the index as it was.

## Main results

* `Value.Within.forget_eq` — a new entry that is forgotten leaves no trace.
* `walk_values_leaves_no_trace` — neither do the values of a loop.
-/

namespace ConfigTree

open Walk Surroundings

/-! ### Entries that are forgotten -/

/-- A key that is not there can be taken away. -/
theorem Entries.erase_of_notMem {α : Type} {es : Entries α} {key : String} (h : key ∉ es.keys) :
    es.erase key = es := by
  induction es with
  | nil => rfl
  | cons e es ih =>
    obtain ⟨k, v⟩ := e
    obtain ⟨hk, hes⟩ := List.ne_and_not_mem_of_not_mem_cons h
    rw [erase, if_neg (Ne.symm hk), ih hes]

/-- A new key stands at the end, and is taken away from there. -/
theorem Entries.erase_alter {α : Type} {es : Entries α} {key : String} (h : key ∉ es.keys)
    (f : Option α → α) : (es.alter key f).erase key = es := by
  induction es with
  | nil => simp [alter, erase]
  | cons e es ih =>
    obtain ⟨k, v⟩ := e
    obtain ⟨hk, hes⟩ := List.ne_and_not_mem_of_not_mem_cons h
    rw [alter, if_neg (Ne.symm hk), erase, if_neg (Ne.symm hk), ih hes]

/-- **A new entry that is forgotten leaves no trace.** -/
theorem Value.Within.forget_eq {path : TreePath} {key : String} {t u : Value}
    (h : Value.Within (path.entry key) t u) {es : Mapping} (ht : t.at? path = some (.map es))
    (hkey : key ∉ Entries.keys es) : u.forget path key = t := by
  rcases h with rfl | ⟨v, rfl⟩
  · rw [Value.forget, ht]
    dsimp only
    rw [Entries.erase_of_notMem hkey, Value.put_of_at? ht]
  · have hat : (t.put (path.entry key) v).at? path
        = some (.map (Entries.alter es key fun _ => v)) := by
      simp [TreePath.entry, Value.at?_put_append, ht]
    -- the key is new, so that it stands at the end, and the others keep their order
    rw [Value.forget, hat]
    dsimp only
    rw [Entries.erase_alter hkey, (Value.Within.put_self (path.entry key) t v).widen.put_eq,
      Value.put_of_at? ht]

/-! ### The values of a loop -/

variable {s : Surroundings} {fields es : Mapping} {items : List Value}
  {path : TreePath} {scope : Scope} {p q : Progress} {w : Value}

/-- The values of a loop that are a list of nodes: they are walked, and then the scratch entry is
taken away. -/
theorem run_loopValues_of_sequence {fetch : String → String → TreePath → Scope → Walk Mapping}
    (hvalues : Entries.get? fields "values" = some (.list items))
    {values : List Value}
    (h : (walk s fetch (.list items) (path.entry scratchKey) scope).run p
      = (.ok (.list values), q)) :
    (s.loopValues (walkEntry s fetch fields "values") (.sequence items) path scope).run p
      = (.ok values, q.withIndex (q.index.forget path scratchKey)) := by
  have hentry : (walkEntry s fetch fields "values" (path.entry scratchKey) scope).run p
      = (.ok (.list values), q) := by
    rw [walkEntry_eq, hvalues]
    exact h
  rw [loopValues, run_bind_of_ok hentry, run_onIndex_bind]
  rfl

/-- **The values of a loop leave no trace.**  If the walk of a list of values goes well, where the
mapping at the place of the loop has no entry under the scratch key, then the index without that
entry is the index from before the walk.  So all rounds of a loop over these values, with their keys
and templates, and what comes after them start from that index. -/
theorem walk_values_leaves_no_trace (library : Library) (budget : Nat)
    (hplace : p.index.at? path = some (.map es)) (hfree : scratchKey ∉ Entries.keys es)
    (hwalk : (walk s (fetchBase library s budget) (.list items) (path.entry scratchKey) scope).run p
      = (.ok w, q)) :
    q.index.forget path scratchKey = p.index
    ∧ ∃ values, w = .list values
      ∧ ∀ fields loop, Loop.ofValue (.map fields) = .ok loop → loop.values = .sequence items →
        let x : Expansion := ⟨s, fetchBase library s budget, path, scope, loop, values⟩
        x.Starts (.map fields) p (q.withIndex p.index)
        ∧ (walkInstances s (fetchBase library s budget) (.map fields) path scope).run p
          = (x.rest []).run (q.withIndex p.index) := by
  -- the walk of the list is done under the scratch key, and leaves its traces there
  have hindex : q.index.forget path scratchKey = p.index :=
    (leads_of_run_walk hwalk).index.forget_eq hplace hfree
  obtain ⟨values, -, rfl⟩ := run_walk_list_eq_ok hwalk
  refine ⟨hindex, values, rfl, fun fields loop hloop hitems => ?_⟩
  have hrun := run_loopValues_of_sequence (Loop.get?_values_of_ofValue hloop hitems) hwalk
  rw [hindex, ← hitems] at hrun
  have hstarts : Expansion.Starts ⟨s, fetchBase library s budget, path, scope, loop, values⟩
      (.map fields) p (q.withIndex p.index) := ⟨fields, rfl, hloop, hrun⟩
  exact ⟨hstarts, run_walkInstances_of_starts hstarts⟩

/-- Values with a base and a loop of their own, beside two entries. -/
theorem walk_values_leaves_no_trace_of_nested :
    let s : Surroundings := ⟨.empty, .empty, .keyless "fernet", Range.halting⟩
    let fetch := fetchBase (fun _ _ => .error (.notFound "")) s 0
    let inner : Value := .map [("values", .list [.int 2]), ("template", .map [("b", .null)])]
    let items : List Value :=
      [.list [.int 1], .map [("extends", .map [("a", .int 1)]), ("foreach", inner)]]
    let fields : Mapping := [("values", .list items), ("template", .map [])]
    let index : Value := .map [("y", .int 3), ("z", .int 4)]
    let p := (Progress.start none []).withIndex index
    ∃ w q values, (walk s fetch (.list items) [.key "foreach"] []).run p = (.ok w, q)
      ∧ q.index = .map [("y", .int 3), ("z", .int 4), ("foreach", w)]
      ∧ q.index.forget [] "foreach" = index
      ∧ Expansion.Starts ⟨s, fetch, [], [], ⟨.sequence items, [], none⟩, values⟩ (.map fields) p
        (q.withIndex index) := by
  intro s fetch inner items fields index p
  obtain ⟨w, q, hwalk, hq⟩ : ∃ w q, (walk s fetch (.list items) [.key "foreach"] []).run p
      = (.ok w, q) ∧ q.index = .map [("y", .int 3), ("z", .int 4), ("foreach", w)] :=
    ⟨_, _, rfl, rfl⟩
  obtain ⟨hindex, values, -, hloops⟩ :=
    @walk_values_leaves_no_trace s [("y", .int 3), ("z", .int 4)] items [] [] p q w _ 0 rfl
      (by decide) hwalk
  have hloop : Loop.ofValue (.map fields) = .ok ⟨.sequence items, [], none⟩ := by cbv
  exact ⟨w, q, values, hwalk, hq, hindex, (hloops fields _ hloop rfl).1⟩

end ConfigTree
