import ConfigTree.Cipher.Fernet
import ConfigTree.Proofs.Text.Split
import ConfigTree.Proofs.Tree.Overlay
import ConfigTree.Proofs.Walk.Step
import Mathlib

/-!
# The layers of a mapping

The walk of a mapping merges entry by entry while it rewrites the index.  What comes of
it is one merge of layers, whatever the directives: the instances of the loop laid over
the base, over both the own entries, each with the value that its walk gave, and then
the updates in their order.

Own entries and updates are walked in the same way: one after the other, with what is
made so far stored in the index after each.  One walk of entries serves both, and what
differs is a parameter of it.

## Main definitions

* `ownEntries`, `updateEntries` — the entries that a mapping has of its own, and those
  that update it.
* `walkEach` — the walk of entries, one after the other, that gives all their values.
* `EachWalked` — each value is what the walk of its entry gave.
* `Layers` — the layers of a mapping; `walkLayers` — the walk that gives them.

## Main results

* `walk_map_eq_layers` — the walk of a mapping is the walk of its layers, and then one merge.
* `walk_map_layers` — what is in a mapping, and in which order.
-/

namespace ConfigTree

open Walk

/-! ### Kinds of entries -/

/-- The first entry with a directive. -/
def Directive.entry? (d : Directive) (entries : Mapping) : Option (String × Value) :=
  entries.find? fun e => Directive.ofKey? e.1 = some d

/-- The entries that a mapping has of its own: all that are no directives. -/
def ownEntries (entries : Mapping) : Mapping := entries.filter fun e => !Directive.isKey e.1

/-- The entries that update a mapping. -/
def updateEntries (entries : Mapping) : Mapping :=
  ((Directive.update.entry? entries).bind fun e => e.2.map?).getD []

theorem keys_ownEntries (entries : Mapping) :
    (ownEntries entries).keys = entries.keys.filter fun k => !Directive.isKey k := by
  unfold ownEntries Entries.keys
  rw [List.filter_map]
  rfl

theorem unique_ownEntries {entries : Mapping} (h : Entries.Unique entries) :
    Entries.Unique (ownEntries entries) := by
  unfold Entries.Unique
  rw [keys_ownEntries]
  exact h.filter _

/-! ### Entries one after the other -/

section Each

variable (s : Surroundings) (fetch : String → String → TreePath → Scope → Walk Mapping)

/-- The values of entries, walked one after the other, each at its `place`.  What `lay` makes of
the `result` so far and an entry is stored in the index, as `store` tells, before the next is
walked. -/
def walkEach (place : String → TreePath) (scope : Scope)
    (lay : Mapping → String × Value → Mapping) (store : String → Mapping → Value → Value) :
    List (String × Value) → Mapping → Walk Mapping
  | [], _ => return []
  | (key, v) :: rest, result => do
    let w ← walk s fetch v (place key) scope
    onIndex (store key (lay result (key, w)))
    let values ← walkEach place scope lay store rest (lay result (key, w))
    return (key, w) :: values

/-- The values of the own entries of a mapping at a place. -/
def walkEachOwn (path : TreePath) (scope : Scope) :
    List (String × Value) → Mapping → Walk Mapping :=
  walkEach s fetch path.entry scope Mapping.lay
    fun key result => (·.put (path.entry key) ((result.get? key).getD .null))

/-- An update of a mapping. -/
def Mapping.apply (target : Mapping) (change : String × Value) : Mapping :=
  target.update change.1 change.2

/-- The values of the entries that update a mapping at a place. -/
def walkEachUpdate (path : TreePath) (scope : Scope) :
    List (String × Value) → Mapping → Walk Mapping :=
  walkEach s fetch path.dotted scope Mapping.apply fun _ result => (·.put path (.map result))

/-- The values belong to the entries in their order: same key, and what a walk of the entry at
its place gave. -/
def EachWalked (place : String → TreePath) (scope : Scope) (entries values : Mapping) : Prop :=
  List.Forall₂ (fun e w => w.1 = e.1 ∧
    ∃ p q, (walk s fetch e.2 (place e.1) scope).run p = (.ok w.2, q)) entries values

variable {s fetch}

theorem EachWalked.keys_eq {place : String → TreePath} {scope : Scope} {entries values : Mapping}
    (h : EachWalked s fetch place scope entries values) : values.keys = entries.keys := by
  induction h with
  | nil => rfl
  | cons he _ ih =>
    unfold Entries.keys at ih ⊢
    rw [List.map_cons, List.map_cons, he.1, ih]

theorem eachWalked_of_run_walkEach {place : String → TreePath} {scope : Scope}
    {lay : Mapping → String × Value → Mapping} {store : String → Mapping → Value → Value}
    {entries result values : Mapping} {p q : Progress}
    (h : (walkEach s fetch place scope lay store entries result).run p = (.ok values, q)) :
    EachWalked s fetch place scope entries values := by
  induction entries generalizing result values p with
  | nil =>
    obtain ⟨rfl, rfl⟩ := run_pure_eq_ok_iff.mp h
    exact .nil
  | cons e entries ih =>
    obtain ⟨key, v⟩ := e
    rw [walkEach, run_bind_eq_ok_iff] at h
    obtain ⟨w, p₁, hw, h⟩ := h
    rw [run_onIndex_bind, run_bind_eq_ok_iff] at h
    obtain ⟨rest, p₂, hrest, h⟩ := h
    obtain ⟨rfl, rfl⟩ := run_pure_eq_ok_iff.mp h
    exact .cons ⟨rfl, p, p₁, hw⟩ (ih hrest)

/-- A mapping with its own entries is what one gets by laying their values over it. -/
theorem walkOwn_eq (entries : Mapping) (path : TreePath) (scope : Scope) (result : Mapping) :
    walkOwn s fetch entries path scope result = do
      let values ← walkEachOwn s fetch path scope (ownEntries entries) result
      return values.foldl Mapping.lay result := by
  induction entries generalizing result with
  -- on the entries, with what is laid under them free
  | nil => rw [walkOwn_nil]; rfl
  | cons e entries ih =>
    obtain ⟨key, v⟩ := e
    rw [walkOwn]
    -- a directive is passed over by both, any other entry is walked by both
    by_cases h : Directive.isKey key = true
    · simp only [h, if_true, ih, ownEntries, List.filter_cons, Bool.not_true, if_false,
        Bool.false_eq_true]
    · simp only [h, if_false, ih, ownEntries, List.filter_cons, Bool.not_false, if_true,
        walkEachOwn, walkEach, Mapping.lay, bind_assoc, pure_bind, List.foldl_cons,
        Bool.false_eq_true]

theorem walkTargetEntries_eq (targets : Mapping) (path : TreePath) (scope : Scope)
    (result : Mapping) :
    walkTargetEntries s fetch targets path scope result = do
      let values ← walkEachUpdate s fetch path scope targets result
      return values.foldl Mapping.apply result := by
  induction targets generalizing result with
  | nil => rw [walkTargetEntries_nil]; rfl
  | cons e targets ih =>
    obtain ⟨target, v⟩ := e
    rw [walkTargetEntries]
    simp only [ih, walkEachUpdate, walkEach, Mapping.apply, bind_assoc, pure_bind,
      List.foldl_cons]

end Each

/-! ### Layers -/

/-- What a mapping is made of. -/
structure Layers where
  /-- What it starts from. -/
  base : Mapping
  /-- The instances of its loop. -/
  generated : Mapping
  /-- Its own entries with their values. -/
  own : Mapping
  /-- Its updates with their values. -/
  updates : Mapping

namespace Layers

/-- The instances over the base. -/
def made (l : Layers) : Mapping := l.base.overlay l.generated

/-- The mapping but for its updates. -/
def plain (l : Layers) : Mapping := l.made.overlay l.own

/-- The mapping. -/
def result (l : Layers) : Mapping :=
  l.updates.foldl Mapping.apply l.plain

end Layers

variable (s : Surroundings) (fetch : String → String → TreePath → Scope → Walk Mapping)

/-- The instances of the loop of a mapping, if it has one. -/
def walkGenerated (entries : Mapping) (path : TreePath) (scope : Scope) (base : Mapping) :
    Walk Mapping :=
  match Directive.loop.entry? entries with
  | none => return []
  | some (_, v) => do
    let generated ← walkInstances s fetch v path scope
    onIndex (·.overlayAt path (base.overlay generated))
    return generated

/-- The updates of a mapping, if it has some. -/
def walkChanges (entries : Mapping) (path : TreePath) (scope : Scope) (plain : Mapping) :
    Walk Mapping :=
  match Directive.update.entry? entries with
  | none => return []
  | some (_, .map targets) => walkEachUpdate s fetch path scope targets plain
  | some (key, v) => fail path (.directive key (.updates v.kind))

/-- The layers of a mapping. -/
def walkLayers (entries : Mapping) (path : TreePath) (scope : Scope) : Walk Layers := do
  onIndex (·.openMap path)
  let base ← walkBase s fetch entries path scope
  onIndex (·.overlayAt path base)
  let generated ← walkGenerated s fetch entries path scope base
  let made := base.overlay generated
  let own ← walkEachOwn s fetch path scope (ownEntries entries) made
  let updates ← walkChanges s fetch entries path scope (made.overlay own)
  return ⟨base, generated, own, updates⟩

variable {s fetch}

theorem walkLoop_eq (entries : Mapping) (path : TreePath) (scope : Scope) (base : Mapping) :
    walkLoop s fetch entries path scope base = do
      let generated ← walkGenerated s fetch entries path scope base
      return base.overlay generated := by
  induction entries with
  | nil =>
    rw [walkLoop_nil]
    simp only [walkGenerated, Directive.entry?, List.find?_nil, pure_bind, Mapping.overlay_empty]
  | cons e entries ih =>
    obtain ⟨key, v⟩ := e
    rw [walkLoop]
    -- the first loop is the one; only behind another entry the search goes on
    by_cases h : Directive.ofKey? key = some .loop
    · simp only [walkGenerated, Directive.entry?, List.find?_cons, h, if_true, decide_true,
        bind_assoc, pure_bind]
    · simp only [walkGenerated, Directive.entry?, List.find?_cons, h, if_false, decide_false]
        at ih ⊢
      exact ih

theorem walkUpdates_eq (entries : Mapping) (path : TreePath) (scope : Scope) (plain : Mapping) :
    walkUpdates s fetch entries path scope plain = do
      let updates ← walkChanges s fetch entries path scope plain
      return updates.foldl Mapping.apply plain := by
  induction entries with
  | nil => rw [walkUpdates_nil]; rfl
  | cons e entries ih =>
    obtain ⟨key, v⟩ := e
    rw [walkUpdates]
    by_cases h : Directive.ofKey? key = some .update
    · rw [if_pos h]
      simp only [walkChanges, Directive.entry?, List.find?_cons, h, decide_true]
      cases v with
      | map targets =>
        rw [walkTargets]
        exact walkTargetEntries_eq targets path scope plain
      | _ => rfl
    · simp only [walkChanges, Directive.entry?, List.find?_cons, h, if_false, decide_false] at ih ⊢
      exact ih

/-- **The walk of a mapping is the walk of its layers, and then one merge.** -/
theorem walk_map_eq_layers {entries : Mapping} (h : Entries.Unique entries) (path : TreePath)
    (scope : Scope) :
    walk s fetch (.map entries) path scope = match Directive.conflict? entries with
      | some (key, previous) => fail path (.directive key (.conflict previous))
      | none => do
        let l ← walkLayers s fetch entries path scope
        return .map l.result := by
  rw [walk_map_eq]
  cases Directive.conflict? entries with
  | some conflict => rfl
  | none =>
    funext p
    simp only [walkMade, walkLayers, walkLoop_eq, walkOwn_eq, walkUpdates_eq, bind_assoc, pure_bind]
    refine run_bind_congr fun _ p₁ _ => run_bind_congr fun base p₂ _ => ?_
    refine run_bind_congr fun _ p₃ _ => run_bind_congr fun generated p₄ _ => ?_
    -- the own entries can be merged in one go, as no key occurs twice among them
    refine run_bind_congr fun own p₅ hown => ?_
    have hkeys : own.keys = (ownEntries entries).keys := (eachWalked_of_run_walkEach hown).keys_eq
    have hunique : Entries.Unique own := by
      unfold Entries.Unique
      rw [hkeys]
      exact unique_ownEntries h
    simp only [← Mapping.overlay_eq_foldl _ hunique]
    rfl

/-! ### Instances have keys of their own -/

theorem unique_of_run_instances {template : TreePath → Scope → Walk Value} {key : Option String}
    {path : TreePath} {scope : Scope} {values : List Value} {i : Nat} {made generated : Mapping}
    {p q : Progress} (hm : Entries.Unique made)
    (h : (s.instances template key path scope values i made).run p = (.ok generated, q)) :
    Entries.Unique generated := by
  induction values generalizing i made p with
  | nil =>
    obtain ⟨rfl, rfl⟩ := run_pure_eq_ok_iff.mp h
    exact hm
  | cons item rest ih =>
    rw [Surroundings.instances, run_bind_eq_ok_iff] at h
    obtain ⟨k, p₁, -, h⟩ := h
    -- a key that is there already ends the walk
    by_cases hk : made.has k = true
    · simp [hk] at h
    · rw [if_neg hk, run_bind_eq_ok_iff] at h
      obtain ⟨v, p₂, -, h⟩ := h
      rw [run_onIndex_bind] at h
      exact ih (hm.alter k _) h

theorem unique_of_run_walkInstances {v : Value} {path : TreePath} {scope : Scope}
    {generated : Mapping} {p q : Progress}
    (h : (walkInstances s fetch v path scope).run p = (.ok generated, q)) :
    Entries.Unique generated := by
  by_cases hv : v.isMap = true
  · obtain ⟨fields, rfl⟩ := Value.isMap_iff.mp hv
    rw [walkInstances] at h
    split at h
    · simp at h
    · rw [run_bind_eq_ok_iff] at h
      obtain ⟨values, p₁, -, h⟩ := h
      exact unique_of_run_instances Entries.unique_nil h
  · rw [Bool.not_eq_true] at hv
    simp [walkInstances_of_not_isMap hv] at h

theorem unique_of_run_walkGenerated {entries : Mapping} {path : TreePath} {scope : Scope}
    {base generated : Mapping} {p q : Progress}
    (h : (walkGenerated s fetch entries path scope base).run p = (.ok generated, q)) :
    Entries.Unique generated := by
  unfold walkGenerated at h
  split at h
  · obtain ⟨rfl, rfl⟩ := run_pure_eq_ok_iff.mp h
    exact Entries.unique_nil
  · rw [run_bind_eq_ok_iff] at h
    obtain ⟨made, p₁, hmade, h⟩ := h
    rw [run_onIndex_bind] at h
    obtain ⟨rfl, -⟩ := run_pure_eq_ok_iff.mp h
    exact unique_of_run_walkInstances hmade

theorem eachWalked_of_run_walkChanges {entries : Mapping} {path : TreePath} {scope : Scope}
    {plain updates : Mapping} {p q : Progress}
    (h : (walkChanges s fetch entries path scope plain).run p = (.ok updates, q)) :
    EachWalked s fetch path.dotted scope (updateEntries entries) updates := by
  unfold walkChanges at h
  unfold updateEntries
  split at h
  · next hnone =>
    obtain ⟨rfl, rfl⟩ := run_pure_eq_ok_iff.mp h
    simp only [hnone, Option.bind_none, Option.getD_none]
    exact .nil
  · next targets hsome =>
    simp only [hsome, Option.bind_some, Value.map?_map, Option.getD_some]
    exact eachWalked_of_run_walkEach h
  · simp at h

/-! ### The order of the keys -/

/-- The key of a mapping that an update with a dotted key is of. -/
def Mapping.targetKey (dotted : String) : String := (TreePath.parts dotted).headD ""

theorem Mapping.parts_eq (dotted : String) :
    ∃ rest, TreePath.parts dotted = Mapping.targetKey dotted :: rest := by
  obtain ⟨key, rest, hparts⟩ := List.exists_cons_of_ne_nil (TreePath.parts_ne_nil dotted)
  exact ⟨rest, by rw [Mapping.targetKey, hparts, List.headD_cons]⟩

theorem Mapping.keys_update (target : Mapping) (dotted : String) (v : Value) :
    (target.update dotted v).keys = behind target.keys [targetKey dotted] := by
  -- whatever comes behind the first part, it is written below that key
  obtain ⟨rest, hparts⟩ := parts_eq dotted
  unfold update
  rw [hparts]
  cases rest with
  | nil => exact Entries.keys_alter target _ _
  | cons key rest => exact Entries.keys_alter target _ _

theorem Mapping.keys_foldl_apply (target updates : Mapping) :
    Entries.keys (updates.foldl apply target)
      = behind target.keys (updates.map fun u => targetKey u.1) := by
  induction updates generalizing target with
  | nil => rfl
  | cons u updates ih =>
    rw [List.foldl_cons, ih, apply, keys_update]
    rfl

namespace Layers

variable {l : Layers} {key : String}

theorem keys_result (hg : Entries.Unique l.generated) (ho : Entries.Unique l.own) :
    l.result.keys = Mapping.behind
      (Mapping.behind (Mapping.behind l.base.keys l.generated.keys) l.own.keys)
      (l.updates.map fun u => Mapping.targetKey u.1) := by
  rw [result, Mapping.keys_foldl_apply, plain, Mapping.keys_overlay _ ho, made,
    Mapping.keys_overlay _ hg]

/-- A scalar or list replaces what is below. -/
theorem get?_plain_of_not_isMap {w : Value} (hw : l.own.get? key = some w)
    (hmap : w.isMap = false) : l.plain.get? key = some w := by
  rw [plain, Mapping.get?_overlay_of_some _ hw, Value.overlay_of_not_isMap _ hmap]

/-- Mappings are merged. -/
theorem get?_plain_of_map {under top : Mapping} (hunder : l.made.get? key = some (.map under))
    (htop : l.own.get? key = some (.map top)) :
    l.plain.get? key = some (.map (Mapping.overlay under top)) := by
  rw [plain, Mapping.get?_overlay_of_some _ htop, hunder, Option.getD_some, Value.overlay_map_map]

end Layers

/-! ### What is in a mapping -/

/-- **What is in a mapping, and in which order.**  The layers are given by the steps of the walk
one after the other: the base, the instances of the loop, the own entries and the updates, the
latter two with the values that the walks of their nodes gave.  The mapping is the updates done
to the own entries over the instances over the base.

So its keys are those of the base, and behind them, in this order, those of the instances, of
the own entries and of the updates that were not there before; and a scalar or list of an own
entry replaces what is below, while mappings are merged. -/
theorem walk_map_layers {entries r : Mapping} {path : TreePath} {scope : Scope}
    {p q : Progress} (hu : Entries.Unique entries)
    (h : (walk s fetch (.map entries) path scope).run p = (.ok (.map r), q)) :
    ∃ (l : Layers) (p₁ p₂ p₃ : Progress),
      ((walkBase s fetch entries path scope).run (p.withIndex (p.index.openMap path))
          = (.ok l.base, p₁)
        ∧ (walkGenerated s fetch entries path scope l.base).run
            (p₁.withIndex (p₁.index.overlayAt path l.base)) = (.ok l.generated, p₂)
        ∧ (walkEachOwn s fetch path scope (ownEntries entries) l.made).run p₂ = (.ok l.own, p₃)
        ∧ (walkChanges s fetch entries path scope l.plain).run p₃ = (.ok l.updates, q))
      ∧ EachWalked s fetch path.entry scope (ownEntries entries) l.own
      ∧ EachWalked s fetch path.dotted scope (updateEntries entries) l.updates
      ∧ r = l.updates.foldl Mapping.apply
          (Mapping.overlay (Mapping.overlay l.base l.generated) l.own)
      ∧ r.keys = Mapping.behind
          (Mapping.behind (Mapping.behind l.base.keys l.generated.keys) l.own.keys)
          (l.updates.map fun u => Mapping.targetKey u.1)
      ∧ (∀ key w, l.own.get? key = some w → w.isMap = false → l.plain.get? key = some w)
      ∧ ∀ key under top, l.made.get? key = some (.map under) → l.own.get? key = some (.map top) →
          l.plain.get? key = some (.map (Mapping.overlay under top)) := by
  rw [walk_map_eq_layers hu] at h
  split at h
  · simp at h
  · rw [run_bind_eq_ok_iff] at h
    obtain ⟨l, q', hl, h⟩ := h
    obtain ⟨hr, rfl⟩ := run_pure_eq_ok_iff.mp h
    obtain rfl := Value.map.inj hr
    -- the steps of the walk one by one, each with the progress it leaves
    simp only [walkLayers, run_onIndex_bind, run_bind_eq_ok_iff] at hl
    obtain ⟨base, p₁, hbase, generated, p₂, hgen, own, p₃, hown, updates, p₄, hup, hl⟩ := hl
    obtain ⟨rfl, rfl⟩ := run_pure_eq_ok_iff.mp hl
    -- neither the own entries nor the instances have a key twice
    have hown' := eachWalked_of_run_walkEach hown
    have hunique : Entries.Unique own := by
      unfold Entries.Unique
      rw [hown'.keys_eq]
      exact unique_ownEntries hu
    refine ⟨⟨base, generated, own, updates⟩, p₁, p₂, p₃, ⟨hbase, hgen, hown, hup⟩, hown',
      eachWalked_of_run_walkChanges hup, rfl, ?_, ?_, ?_⟩
    · exact Layers.keys_result (unique_of_run_walkGenerated hgen) hunique
    · intro key w hw hmap
      exact Layers.get?_plain_of_not_isMap hw hmap
    · intro key under top hunder htop
      exact Layers.get?_plain_of_map hunder htop

/-- A mapping of four layers: `a` comes from the base and is merged, `b` from the base alone, `0`
from the loop, and the update brings `c`. -/
theorem walk_map_layers_of_four :
    let entries : Mapping := [
      ("extends", .map [("a", .map [("x", .bool true)]), ("b", .null)]),
      ("foreach", .map [("values", .list [.null]), ("template", .map [])]),
      ("a", .map [("y", .bool false)]),
      ("update", .map [("c.d", .null)])]
    let r : Mapping := [("a", .map [("x", .bool true), ("y", .bool false)]), ("b", .null),
      ("0", .map []), ("c", .map [("d", .null)])]
    let s : Surroundings := ⟨.standard Range.halting, .standard, .keyless "fernet", Range.halting⟩
    let fetch := fun _ _ _ _ => pure []
    Entries.Unique entries
      ∧ ((walk s fetch (.map entries) [] []).run (.start none [])).1 = .ok (.map r)
      ∧ ∃ l : Layers,
        EachWalked s fetch (TreePath.entry []) [] [("a", .map [("y", .bool false)])] l.own
          ∧ EachWalked s fetch (TreePath.dotted []) [] [("c.d", .null)] l.updates
          ∧ r = l.result := by
  intro entries r s fetch
  have hu : Entries.Unique entries := by decide
  have hr : ((walk s fetch (.map entries) [] []).run (.start none [])).1 = .ok (.map r) := by cbv
  obtain ⟨l, -, -, -, -, hown, hupdates, hl, -⟩ := walk_map_layers hu (Prod.ext hr rfl)
  exact ⟨hu, hr, l, hown, hupdates, hl⟩

end ConfigTree
