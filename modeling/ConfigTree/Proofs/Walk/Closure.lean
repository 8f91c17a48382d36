import ConfigTree.Proofs.Walk.Fault
import ConfigTree.Proofs.Walk.Step

/-!
# What all walks have in common

A walk is put together from a dozen kinds of single steps.  A property of steps that the
single steps have, and that two steps have together if each has it, is a property of
every walk, imports included, whether it goes well or not.  The same is so of a relation
between steps, which then holds between two walks of one node that get imports in
different ways.  The recursion through nodes is gone through once, here, for relations; a
property is a relation that looks at one of the two.

A property may speak of a place: the steps at a place are those that change the index at
that place or below it.

## Main definitions

* `Walk.Congruence s R` — what `R` needs to hold between all walks of one node.
* `Walk.Closed s P` — what `P` needs to be a property of all walks.

## Main results

* `Walk.Congruence.of_walk` — two walks of a node are related if what they import is.
* `Walk.Closed.of_walk` — the walk of a node has the property at the place of the node.
* `Walk.Closed.of_fetchBase` — and so has an import, whatever the budget.
-/

namespace ConfigTree

open Walk

/-! ### Related walks -/

/-- The single steps are related to themselves, and related steps can be put together. -/
structure Walk.Congruence (s : Surroundings)
    (R : TreePath → ∀ {α : Type}, Walk α → Walk α → Prop) : Prop where
  /-- Nothing is done. -/
  pure {α : Type} (path : TreePath) (a : α) : R path (pure a) (pure a)
  /-- Two steps one after the other. -/
  bind {α β : Type} {path : TreePath} {act act' : Walk α} {f f' : α → Walk β} :
    R path act act' → (∀ a, R path (f a) (f' a)) → R path (act >>= f) (act' >>= f')
  /-- The walk ends. -/
  fail {α : Type} (path place : TreePath) {fault : DocumentFault} :
    fault.OfNode → R path (fail place fault : Walk α) (fail place fault)
  /-- A text is evaluated. -/
  evaluate (path : TreePath) (scope : Scope) (place : TreePath) :
    R path (s.environmentNow scope place) (s.environmentNow scope place)
  /-- A text that is kept is logged. -/
  kept (path place : TreePath) (e : EvalError) : R path (logKept place e) (logKept place e)
  /-- Something is put at the place or below. -/
  put (path rest : TreePath) (v : Value) :
    R path (onIndex (·.put (path ++ rest) v)) (onIndex (·.put (path ++ rest) v))
  /-- A mapping is opened at the place. -/
  openMap (path : TreePath) : R path (onIndex (·.openMap path)) (onIndex (·.openMap path))
  /-- Entries are laid over the mapping at the place. -/
  overlayAt (path : TreePath) (entries : Mapping) :
    R path (onIndex (·.overlayAt path entries)) (onIndex (·.overlayAt path entries))
  /-- An entry of the mapping at the place is forgotten. -/
  forget (path : TreePath) (key : String) :
    R path (onIndex (·.forget path key)) (onIndex (·.forget path key))
  /-- Steps below the place are steps at the place. -/
  below {α : Type} {path rest : TreePath} {act act' : Walk α} :
    R (path ++ rest) act act' → R path act act'

namespace Walk.Congruence

variable {s : Surroundings} {R : TreePath → ∀ {α : Type}, Walk α → Walk α → Prop}
  (h : Congruence s R)

include h

/-! ### Texts and loops -/

theorem of_walkText (source : String) (path : TreePath) (scope : Scope) :
    R path (s.walkText source path scope) (s.walkText source path scope) := by
  refine h.bind (h.evaluate path scope _) fun env => ?_
  split
  · exact h.pure path _
  · exact h.bind (h.kept path _ _) fun _ => h.pure path _

theorem of_walkReference (source : String) (path : TreePath) (scope : Scope) :
    R path (s.walkReference source path scope) (s.walkReference source path scope) := by
  refine h.bind (h.evaluate path scope _) fun env => ?_
  split
  · exact h.pure path _
  · exact h.fail path _ trivial
  · exact h.fail path _ trivial

theorem of_loopKey (key : Option String) (i : Nat) (path : TreePath) (scope : Scope) :
    R path (s.loopKey key i path scope) (s.loopKey key i path scope) := by
  cases key with
  | none => exact h.pure path _
  | some source =>
    refine h.bind (h.evaluate path scope _) fun env => ?_
    split
    · exact h.fail path _ trivial
    · split
      · exact h.pure path _
      · exact h.fail path _ trivial

theorem of_loopValues {sequence sequence' : TreePath → Scope → Walk Value}
    (hs : ∀ path scope, R path (sequence path scope) (sequence' path scope))
    (values : LoopValues) (path : TreePath) (scope : Scope) :
    R path (s.loopValues sequence values path scope)
      (s.loopValues sequence' values path scope) := by
  cases values with
  | generator g =>
    refine h.bind (h.evaluate path scope _) fun env => ?_
    split
    · exact h.pure path _
    · exact h.fail path _ trivial
  | sequence items =>
    -- the list is walked below the place, as a scratch entry that is forgotten again
    refine h.bind (h.below (hs _ scope)) fun v => ?_
    exact h.bind (h.forget path _) fun _ => h.pure path _
  | expression source =>
    refine h.bind (h.evaluate path scope _) fun env => ?_
    split
    · exact h.pure path _
    · exact h.fail path _ trivial
    · exact h.fail path _ trivial

theorem of_instances {template template' : TreePath → Scope → Walk Value}
    (ht : ∀ path scope, R path (template path scope) (template' path scope))
    (key : Option String) (path : TreePath) (scope : Scope) (values : List Value) (i : Nat)
    (made : Mapping) :
    R path (s.instances template key path scope values i made)
      (s.instances template' key path scope values i made) := by
  induction values generalizing i made with
  | nil => exact h.pure path _
  | cons item rest ih =>
    refine h.bind (h.of_loopKey key i path _) fun k => ?_
    split
    · exact h.fail path _ trivial
    · refine h.bind (h.below (ht _ _)) fun v => ?_
      exact h.bind (h.put path _ v) fun _ => ih (i + 1) _

/-! ### Nodes -/

variable {fetch fetch' : String → String → TreePath → Scope → Walk Mapping}
  (hf : ∀ directive reference path scope,
    R path (fetch directive reference path scope) (fetch' directive reference path scope))

include hf

-- Each theorem of the block needs both assumptions, if only through the others.
set_option linter.unusedSectionVars false in
mutual

/-- **Two walks of a node are related at the place of the node** if what they import is. -/
theorem of_walk : ∀ (v : Value) (path : TreePath) (scope : Scope),
    R path (walk s fetch v path scope) (walk s fetch' v path scope)
  | .map entries, path, scope => by
    rw [walk, walk]
    split
    · exact h.fail path _ trivial
    · refine h.bind (h.openMap path) fun _ => ?_
      refine h.bind (of_walkBase entries path scope) fun base => ?_
      refine h.bind (h.overlayAt path base) fun _ => ?_
      refine h.bind (of_walkLoop entries path scope base) fun made => ?_
      refine h.bind (of_walkOwn entries path scope made) fun own => ?_
      exact h.bind (of_walkUpdates entries path scope own) fun _ => h.pure path _
  | .list items, path, scope => by
    rw [walk, walk]
    -- the list is put at the place itself
    have hput := h.put path [] (.list [])
    rw [List.append_nil] at hput
    exact h.bind hput fun _ => h.bind (of_walkItems items path scope 0) fun _ => h.pure path _
  | .str source, path, scope => by
    rw [walk, walk]
    exact h.of_walkText source path scope
  | .null, path, _ | .bool _, path, _ | .int _, path, _ | .float _, path, _ => by
    rw [walk_eq_pure rfl rfl rfl, walk_eq_pure rfl rfl rfl]
    exact h.pure path _

theorem of_walkItems : ∀ (items : List Value) (path : TreePath) (scope : Scope) (i : Nat),
    R path (walkItems s fetch items path scope i) (walkItems s fetch' items path scope i)
  | [], path, scope, i => by
    rw [walkItems_nil, walkItems_nil]
    exact h.pure path _
  | item :: rest, path, scope, i => by
    rw [walkItems, walkItems]
    refine h.bind (h.below (of_walk item (path.item i) scope)) fun v => ?_
    refine h.bind (h.put path _ v) fun _ => ?_
    exact h.bind (of_walkItems rest path scope (i + 1)) fun _ => h.pure path _

theorem of_walkBase : ∀ (entries : List (String × Value)) (path : TreePath) (scope : Scope),
    R path (walkBase s fetch entries path scope) (walkBase s fetch' entries path scope)
  | [], path, scope => by
    rw [walkBase_nil, walkBase_nil]
    exact h.pure path _
  | (key, v) :: rest, path, scope => by
    rw [walkBase, walkBase]
    split
    · split
      · exact h.of_walkReference _ path scope
      · split
        · exact h.bind (of_walk v path scope) fun _ => h.pure path _
        · exact h.fail path _ trivial
    · split
      · exact hf _ _ path scope
      · exact h.fail path _ trivial
    · exact of_walkBase rest path scope

theorem of_walkLoop : ∀ (entries : List (String × Value)) (path : TreePath) (scope : Scope)
    (base : Mapping),
    R path (walkLoop s fetch entries path scope base) (walkLoop s fetch' entries path scope base)
  | [], path, scope, base => by
    rw [walkLoop_nil, walkLoop_nil]
    exact h.pure path _
  | (key, v) :: rest, path, scope, base => by
    rw [walkLoop, walkLoop]
    split
    · refine h.bind (of_walkInstances v path scope) fun generated => ?_
      exact h.bind (h.overlayAt path _) fun _ => h.pure path _
    · exact of_walkLoop rest path scope base

theorem of_walkInstances : ∀ (v : Value) (path : TreePath) (scope : Scope),
    R path (walkInstances s fetch v path scope) (walkInstances s fetch' v path scope)
  | .map fields, path, scope => by
    rw [walkInstances, walkInstances]
    split
    -- no loop is refused for want of a budget or for being imported in a circle
    · next fault hfault => exact h.fail path _ (DocumentFault.ofNode_of_ofValue hfault)
    · refine h.bind (h.of_loopValues (of_walkEntry fields "values") _ path scope) fun values => ?_
      exact h.of_instances (of_walkEntry fields "template") _ path _ values 0 []
  | .null, path, _ | .bool _, path, _ | .int _, path, _ | .float _, path, _
  | .str _, path, _ | .list _, path, _ => by
    rw [walkInstances_of_not_isMap rfl, walkInstances_of_not_isMap rfl]
    exact h.fail path _ trivial

theorem of_walkEntry : ∀ (entries : List (String × Value)) (key : String) (path : TreePath)
    (scope : Scope),
    R path (walkEntry s fetch entries key path scope) (walkEntry s fetch' entries key path scope)
  | [], key, path, scope => by
    rw [walkEntry_nil, walkEntry_nil]
    exact h.pure path _
  | (k, v) :: rest, key, path, scope => by
    rw [walkEntry, walkEntry]
    split
    · exact of_walk v path scope
    · exact of_walkEntry rest key path scope

theorem of_walkOwn : ∀ (entries : List (String × Value)) (path : TreePath) (scope : Scope)
    (result : Mapping),
    R path (walkOwn s fetch entries path scope result) (walkOwn s fetch' entries path scope result)
  | [], path, scope, result => by
    rw [walkOwn_nil, walkOwn_nil]
    exact h.pure path _
  | (key, v) :: rest, path, scope, result => by
    rw [walkOwn, walkOwn]
    split
    · exact of_walkOwn rest path scope result
    -- an own entry is walked below the place and then laid over what is there
    · refine h.bind (h.below (of_walk v (path.entry key) scope)) fun w => ?_
      exact h.bind (h.put path _ _) fun _ => of_walkOwn rest path scope _

theorem of_walkUpdates : ∀ (entries : List (String × Value)) (path : TreePath) (scope : Scope)
    (result : Mapping),
    R path (walkUpdates s fetch entries path scope result)
      (walkUpdates s fetch' entries path scope result)
  | [], path, scope, result => by
    rw [walkUpdates_nil, walkUpdates_nil]
    exact h.pure path _
  | (key, v) :: rest, path, scope, result => by
    rw [walkUpdates, walkUpdates]
    split
    · exact of_walkTargets v key path scope result
    · exact of_walkUpdates rest path scope result

theorem of_walkTargets : ∀ (v : Value) (directive : String) (path : TreePath) (scope : Scope)
    (result : Mapping),
    R path (walkTargets s fetch v directive path scope result)
      (walkTargets s fetch' v directive path scope result)
  | .map targets, directive, path, scope, result => by
    rw [walkTargets, walkTargets]
    exact of_walkTargetEntries targets path scope result
  | .null, _, path, _, _ | .bool _, _, path, _, _ | .int _, _, path, _, _
  | .float _, _, path, _, _ | .str _, _, path, _, _ | .list _, _, path, _, _ => by
    rw [walkTargets_of_not_isMap rfl, walkTargets_of_not_isMap rfl]
    exact h.fail path _ trivial

theorem of_walkTargetEntries : ∀ (targets : List (String × Value)) (path : TreePath)
    (scope : Scope) (result : Mapping),
    R path (walkTargetEntries s fetch targets path scope result)
      (walkTargetEntries s fetch' targets path scope result)
  | [], path, scope, result => by
    rw [walkTargetEntries_nil, walkTargetEntries_nil]
    exact h.pure path _
  | (target, v) :: rest, path, scope, result => by
    rw [walkTargetEntries, walkTargetEntries]
    refine h.bind (h.below (of_walk v (path.dotted target) scope)) fun w => ?_
    have hput := h.put path [] (.map (Mapping.update result target w))
    rw [List.append_nil] at hput
    exact h.bind hput fun _ => of_walkTargetEntries rest path scope _

end

theorem of_walkMade (entries : Mapping) (path : TreePath) (scope : Scope) :
    R path (walkMade s fetch entries path scope) (walkMade s fetch' entries path scope) := by
  -- the steps of a mapping, in the order of the walk
  refine h.bind (h.openMap path) fun _ => ?_
  refine h.bind (h.of_walkBase hf entries path scope) fun base => ?_
  exact h.bind (h.overlayAt path base) fun _ => h.of_walkLoop hf entries path scope base

end Walk.Congruence

/-! ### Properties of all walks -/

/-- The single steps have a property, and so have the steps put together from such. -/
structure Walk.Closed (s : Surroundings) (P : TreePath → ∀ {α : Type}, Walk α → Prop) : Prop where
  /-- Nothing is done. -/
  pure {α : Type} (path : TreePath) (a : α) : P path (pure a)
  /-- Two steps one after the other. -/
  bind {α β : Type} {path : TreePath} {act : Walk α} {f : α → Walk β} :
    P path act → (∀ a, P path (f a)) → P path (act >>= f)
  /-- The walk ends. -/
  fail {α : Type} (path place : TreePath) (fault : DocumentFault) :
    P path (fail place fault : Walk α)
  /-- A text is evaluated. -/
  evaluate (path : TreePath) (scope : Scope) (place : TreePath) :
    P path (s.environmentNow scope place)
  /-- A text that is kept is logged. -/
  kept (path place : TreePath) (e : EvalError) : P path (logKept place e)
  /-- Something is put at the place or below. -/
  put (path rest : TreePath) (v : Value) : P path (onIndex (·.put (path ++ rest) v))
  /-- A mapping is opened at the place. -/
  openMap (path : TreePath) : P path (onIndex (·.openMap path))
  /-- Entries are laid over the mapping at the place. -/
  overlayAt (path : TreePath) (entries : Mapping) : P path (onIndex (·.overlayAt path entries))
  /-- An entry of the mapping at the place is forgotten. -/
  forget (path : TreePath) (key : String) : P path (onIndex (·.forget path key))
  /-- A step below the place is one at the place. -/
  below {α : Type} {path rest : TreePath} {act : Walk α} : P (path ++ rest) act → P path act
  /-- A document is asked for. -/
  ask (path : TreePath) (reference : String) : P path (ask reference)
  /-- A step is done inside of another document. -/
  inside {α : Type} {path : TreePath} {file : Option String} {act : Walk α} :
    P [] act → P path (inside file act)

namespace Walk.Closed

variable {s : Surroundings} {P : TreePath → ∀ {α : Type}, Walk α → Prop} (h : Closed s P)

include h

/-- A property is a relation that looks at one of two walks only. -/
theorem congruence : Congruence s fun path _ act _ => P path act where
  pure := h.pure
  bind ha hf := h.bind ha hf
  fail path place fault _ := h.fail path place fault
  evaluate := h.evaluate
  kept := h.kept
  put := h.put
  openMap := h.openMap
  overlayAt := h.overlayAt
  forget := h.forget
  below ha := h.below ha

/-! ### Loops -/

theorem of_loopKey (key : Option String) (i : Nat) (path : TreePath) (scope : Scope) :
    P path (s.loopKey key i path scope) := h.congruence.of_loopKey key i path scope

theorem of_loopValues {sequence : TreePath → Scope → Walk Value}
    (hs : ∀ path scope, P path (sequence path scope)) (values : LoopValues) (path : TreePath)
    (scope : Scope) : P path (s.loopValues sequence values path scope) :=
  @Congruence.of_loopValues s _ h.congruence sequence sequence hs values path scope

theorem of_instances {template : TreePath → Scope → Walk Value}
    (ht : ∀ path scope, P path (template path scope)) (key : Option String) (path : TreePath)
    (scope : Scope) (values : List Value) (i : Nat) (made : Mapping) :
    P path (s.instances template key path scope values i made) :=
  @Congruence.of_instances s _ h.congruence template template ht key path scope values i made

/-! ### Nodes -/

section Nodes

variable {fetch : String → String → TreePath → Scope → Walk Mapping}
  (hf : ∀ directive reference path scope, P path (fetch directive reference path scope))

include hf

/-- **The walk of a node has the property at the place of the node.** -/
theorem of_walk (v : Value) (path : TreePath) (scope : Scope) :
    P path (walk s fetch v path scope) :=
  @Congruence.of_walk s _ h.congruence fetch fetch hf v path scope

theorem of_walkItems (items : List Value) (path : TreePath) (scope : Scope) (i : Nat) :
    P path (walkItems s fetch items path scope i) :=
  @Congruence.of_walkItems s _ h.congruence fetch fetch hf items path scope i

theorem of_walkBase (entries : Mapping) (path : TreePath) (scope : Scope) :
    P path (walkBase s fetch entries path scope) :=
  @Congruence.of_walkBase s _ h.congruence fetch fetch hf entries path scope

theorem of_walkEntry (entries : Mapping) (key : String) (path : TreePath) (scope : Scope) :
    P path (walkEntry s fetch entries key path scope) :=
  @Congruence.of_walkEntry s _ h.congruence fetch fetch hf entries key path scope

theorem of_walkOwn (entries : Mapping) (path : TreePath) (scope : Scope) (result : Mapping) :
    P path (walkOwn s fetch entries path scope result) :=
  @Congruence.of_walkOwn s _ h.congruence fetch fetch hf entries path scope result

theorem of_walkTargetEntries (targets : Mapping) (path : TreePath) (scope : Scope)
    (result : Mapping) : P path (walkTargetEntries s fetch targets path scope result) :=
  @Congruence.of_walkTargetEntries s _ h.congruence fetch fetch hf targets path scope result

theorem of_walkMade (entries : Mapping) (path : TreePath) (scope : Scope) :
    P path (walkMade s fetch entries path scope) :=
  @Congruence.of_walkMade s _ h.congruence fetch fetch hf entries path scope

end Nodes

/-! ### Documents -/

theorem of_importedMapping (directive reference : String) (path : TreePath) (v : Value) :
    P path (importedMapping directive reference path v) := by
  cases v <;> first | exact h.pure path _ | exact h.fail path _ _

/-- **An import has the property, whatever the budget.** -/
theorem of_fetchBase (library : Library) (budget : Nat) (directive reference : String)
    (path : TreePath) (scope : Scope) :
    P path (fetchBase library s budget directive reference path scope) := by
  induction budget generalizing directive reference path scope with
  | zero =>
    rw [fetchBase]
    refine h.bind (h.ask path reference) fun request => ?_
    split
    · exact h.fail path _ _
    · split <;> exact h.fail path _ _
  | succ budget ih =>
    rw [fetchBase]
    refine h.bind (h.ask path reference) fun request => ?_
    split
    · exact h.fail path _ _
    · split
      · exact h.fail path _ _
      · -- inside, imports have less of the budget left
        refine h.bind (h.inside (h.of_walk ih _ [] scope)) fun v => ?_
        exact h.of_importedMapping directive reference path v

end Walk.Closed

end ConfigTree
