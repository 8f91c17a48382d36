import ConfigTree.Proofs.Tree.Leaves
import ConfigTree.Proofs.Walk.Visit

/-!
# Who asks for documents

Only nodes that a run comes to ask for documents.  So what holds at all these nodes holds
with all that a run asks for.

## Main definitions

* `Walk.AsksOnly W act p` — all that `act` asks for from the progress `p` is `W`.
* `Visit.Asked library s v` — what the nodes ask for that the walk of the node comes to.

## Main results

* `Visit.Child.lt` — each step to another node uses up the budget or goes down in a document.
* `Visit.asksOnly_walk` — the walk of a node asks for nothing else.
-/

namespace ConfigTree

open Walk

variable {α β : Type} {library : Library} {s : Surroundings}

/-! ### What is in a node is smaller -/

namespace Value

theorem sizeOf_lt_of_item {items : List Value} {item : Value} (h : item ∈ items) :
    sizeOf item < sizeOf (Value.list items) := by
  have hitems := List.sizeOf_lt_of_mem h
  simp only [Value.list.sizeOf_spec]
  omega

theorem sizeOf_lt_of_mem {entries : List (String × Value)} {key : String} {v : Value}
    (h : (key, v) ∈ entries) : sizeOf v < sizeOf (Value.map entries) := by
  have hentries := List.sizeOf_lt_of_mem h
  simp only [Value.map.sizeOf_spec, Prod.mk.sizeOf_spec] at hentries ⊢
  omega

theorem sizeOf_lt_of_get? {entries : Mapping} {key : String} {v : Value}
    (h : entries.get? key = some v) : sizeOf v < sizeOf (Value.map entries) :=
  sizeOf_lt_of_mem (Entries.mem_of_get? h)

theorem sizeOf_lt_of_entry? {d : Directive} {entries : Mapping} {key : String} {v : Value}
    (h : d.entry? entries = some (key, v)) : sizeOf v < sizeOf (Value.map entries) :=
  sizeOf_lt_of_mem (List.mem_of_find?_eq_some h)

end Value

/-! ### Steps that ask for nothing else -/

/-- All that a step asks for from a progress is of some kind. -/
def Walk.AsksOnly (W : Request → Prop) (act : Walk α) (p : Progress) : Prop :=
  ∀ r ∈ (act.run p).2.requests, r ∈ p.requests ∨ W r

/-- A step that asks for nothing. -/
def Walk.Quiet (act : Walk α) : Prop := ∀ p, (act.run p).2.requests = p.requests

namespace Walk

variable {W : Request → Prop} {act : Walk α} {p : Progress}

theorem Quiet.bind {f : α → Walk β} (ha : act.Quiet) (hf : ∀ a, (f a).Quiet) :
    (act >>= f).Quiet := by
  intro p
  rcases h : act.run p with ⟨e | a, q⟩ <;> have hq := ha p <;> rw [h] at hq
  · rw [run_bind_of_error h]
    exact hq
  · rw [run_bind_of_ok h, hf a q]
    exact hq

/-- Nothing that is done with texts or with the index asks for anything. -/
theorem congruence_quiet (s : Surroundings) : Congruence s fun _ _ act _ => act.Quiet where
  pure _ _ := fun _ => rfl
  bind ha hf := ha.bind hf
  fail _ _ _ _ := fun _ => rfl
  evaluate _ _ _ := fun _ => rfl
  kept _ _ _ := fun _ => rfl
  put _ _ _ := fun _ => rfl
  openMap _ := fun _ => rfl
  overlayAt _ _ := fun _ => rfl
  forget _ _ := fun _ => rfl
  below ha := ha

theorem Quiet.asksOnly (h : act.Quiet) : act.AsksOnly W p := by
  intro r hr
  rw [h p] at hr
  exact Or.inl hr

theorem AsksOnly.bind {f : α → Walk β} (ha : act.AsksOnly W p)
    (hf : ∀ a q, act.run p = (.ok a, q) → (f a).AsksOnly W q) : (act >>= f).AsksOnly W p := by
  unfold AsksOnly at *
  rcases h : act.run p with ⟨e | a, q⟩ <;> rw [h] at ha
  · rwa [run_bind_of_error h]
  · rw [run_bind_of_ok h]
    intro r hr
    exact (hf a q h r hr).elim (ha r) Or.inr

theorem AsksOnly.onIndex_bind {g : Value → Value} {f : Unit → Walk β}
    (hf : (f ()).AsksOnly W (p.withIndex (g p.index))) : (onIndex g >>= f).AsksOnly W p := by
  unfold AsksOnly at *
  rwa [run_onIndex_bind]

theorem AsksOnly.bind_pure (ha : act.AsksOnly W p) (f : α → β) :
    (act >>= fun a => pure (f a)).AsksOnly W p := ha.bind fun _ _ _ => Quiet.asksOnly fun _ => rfl

theorem AsksOnly.mono {V : Request → Prop} (ha : act.AsksOnly V p) (h : ∀ r, V r → W r) :
    act.AsksOnly W p := fun r hr => (ha r hr).imp_right (h r)

theorem quiet_importedMapping (directive reference : String) (path : TreePath) (v : Value) :
    (importedMapping directive reference path v).Quiet := by
  intro p
  rw [run_importedMapping]

/-- The base of a mapping asks only for what the mapping written in place or the document does. -/
theorem AsksOnly.walkBase {fetch : String → String → TreePath → Scope → Walk Mapping}
    {entries : Mapping} {path : TreePath} {scope : Scope}
    (hinline : ∀ key inline, Directive.extend.entry? entries = some (key, .map inline) →
      (walk s fetch (.map inline) path scope).AsksOnly W p)
    (hfetch : ∀ key reference, Directive.fetch.entry? entries = some (key, .str reference) →
      (fetch key reference path scope).AsksOnly W p) :
    (walkBase s fetch entries path scope).AsksOnly W p := by
  induction entries with
  | nil => exact Quiet.asksOnly fun _ => rfl
  | cons e entries ih =>
    obtain ⟨key, v⟩ := e
    rw [ConfigTree.walkBase]
    simp only [Directive.entry?, List.find?_cons] at hinline hfetch ih
    cases hkey : Directive.ofKey? key with
    | none =>
      simp only [hkey, reduceCtorEq, decide_false] at hinline hfetch
      exact ih hinline hfetch
    | some d =>
      simp only [hkey, Option.some.injEq] at hinline hfetch
      -- only a base written in place and a document are walked, and each ends the search
      cases d with
      | extend =>
        simp only [decide_true] at hinline
        cases v with
        | str source => exact ((congruence_quiet s).of_walkReference source path scope).asksOnly
        | map inline => exact (hinline key inline rfl).bind_pure _
        | _ => exact Quiet.asksOnly fun _ => rfl
      | fetch =>
        simp only [decide_true] at hfetch
        cases v with
        | str reference => exact hfetch key reference rfl
        | _ => exact Quiet.asksOnly fun _ => rfl
      | update | loop =>
        simp only [reduceCtorEq, decide_false] at hinline hfetch
        exact ih hinline hfetch

/-- Updates ask only for what the nodes among them do. -/
theorem AsksOnly.walkUpdates {fetch : String → String → TreePath → Scope → Walk Mapping}
    {entries : Mapping} {path : TreePath} {scope : Scope} {result : Mapping}
    (h : ∀ key targets, Directive.update.entry? entries = some (key, .map targets) →
      (walkTargetEntries s fetch targets path scope result).AsksOnly W p) :
    (walkUpdates s fetch entries path scope result).AsksOnly W p := by
  induction entries with
  | nil => exact Quiet.asksOnly fun _ => rfl
  | cons e entries ih =>
    obtain ⟨key, v⟩ := e
    rw [ConfigTree.walkUpdates]
    simp only [Directive.entry?, List.find?_cons] at h ih
    split
    · next hkey =>
      simp only [hkey, decide_true] at h
      cases v with
      | map targets => exact h key targets rfl
      | _ => exact Quiet.asksOnly fun _ => rfl
    · next hkey =>
      simp only [hkey, decide_false] at h
      exact ih h

/-- What is asked for inside of another document. -/
theorem AsksOnly.inside {file : Option String} (ha : act.AsksOnly W (p.enter file)) :
    (inside file act).AsksOnly W p := ha

end Walk

/-! ### The parts of a node -/

namespace Visit

/-- The walk of the node. -/
def toWalk (library : Library) (s : Surroundings) (v : Visit) : Walk Value :=
  walk s (fetchBase library s v.budget) v.node v.path v.scope

/-- The walks of the nodes that the walk of a node walks ask only for what is of some kind. -/
def AsksOnlyBelow (library : Library) (s : Surroundings) (W : Request → Prop) (v : Visit) : Prop :=
  ∀ w, Child library s v w → (w.toWalk library s).AsksOnly W w.progress

namespace AsksOnlyBelow

variable {W : Request → Prop} {v : Visit} (h : v.AsksOnlyBelow library s W)

include h

theorem items (front : List Value) {after values : List Value} {p : Progress}
    (hnode : v.node = .list (front ++ after))
    (hfront : (walkItems s (fetchBase library s v.budget) front v.path v.scope 0).run
      (v.progress.withIndex (v.progress.index.put v.path (.list []))) = (.ok values, p)) :
    (walkItems s (fetchBase library s v.budget) after v.path v.scope front.length).AsksOnly
      W p := by
  -- on the items to come; those before are carried along as what has been run, since a
  -- child of the node is defined by the progress in which it is come to
  induction after generalizing front values p with
  | nil =>
    rw [walkItems_nil]
    exact Quiet.asksOnly fun _ => rfl
  | cons item after ih =>
    rw [walkItems]
    refine (h _ (.item hnode hfront)).bind fun w q hw => .onIndex_bind ?_
    -- the items before the next are these and this one
    have hlength : (front ++ [item]).length = front.length + 1 := by
      rw [List.length_append, List.length_singleton]
    rw [List.append_cons] at hnode
    rw [← hlength]
    refine (@ih _ (values ++ [w]) _ hnode ?_).bind_pure _
    simp only [toWalk] at hw
    rw [walkItems_append, run_bind_of_ok hfront, walkItems, Nat.zero_add]
    simp only [bind_assoc]
    rw [run_bind_of_ok hw]
    rfl

theorem fetch {entries : Mapping} (hself : ∀ reference, W (v.request reference))
    (hnode : v.node = .map entries) (hconflict : Directive.conflict? entries = none)
    {key reference : String}
    (hentry : Directive.fetch.entry? entries = some (key, .str reference)) :
    (fetchBase library s v.budget key reference v.path v.scope).AsksOnly W v.opening := by
  -- the request itself is of the kind, whatever then becomes of it
  have hasking : ∀ r ∈ (v.asking reference).requests, r ∈ v.progress.requests ∨ W r := by
    intro r hr
    refine (List.mem_append.mp hr).imp_right fun hr => ?_
    rw [List.mem_singleton.mp hr]
    exact hself reference
  unfold AsksOnly
  rw [run_fetchBase]
  split
  · exact hasking
  · next document hdoc =>
    split
    · exact hasking
    · next hclosed =>
      -- the document is read and is not open; it is walked if the budget allows it
      cases hbudget : v.budget with
      | zero => exact hasking
      | succ budget =>
        have hchild := h _ (.document hnode hconflict hentry hdoc hclosed hbudget)
        have hwalk : (walkImported library s document key reference v.path v.scope
            (budget + 1)).AsksOnly W (v.asking reference) :=
          hchild.inside.bind fun _ _ _ => (quiet_importedMapping _ _ _ _).asksOnly
        exact fun r hr => (hwalk r hr).elim (hasking r) Or.inr

theorem base {entries : Mapping} (hself : ∀ reference, W (v.request reference))
    (hnode : v.node = .map entries) (hconflict : Directive.conflict? entries = none) :
    (walkBase s (fetchBase library s v.budget) entries v.path v.scope).AsksOnly W v.opening := by
  refine AsksOnly.walkBase (fun key inline hentry => ?_) fun key reference hentry => ?_
  · exact h _ (.inline hnode hconflict hentry)
  · exact h.fetch hself hnode hconflict hentry

section Loop

variable {entries fields base : Mapping} {key : String} {loop : Loop} {p : Progress}
  (hnode : v.node = .map entries) (hconflict : Directive.conflict? entries = none)
  (hbase : (walkBase s (fetchBase library s v.budget) entries v.path v.scope).run v.opening
    = (.ok base, p))
  (hentry : Directive.loop.entry? entries = some (key, .map fields))
  (hloop : Loop.ofValue (.map fields) = .ok loop)

include hnode hconflict hbase hentry hloop

theorem values :
    (s.loopValues (walkEntry s (fetchBase library s v.budget) fields "values") loop.values v.path
      v.scope).AsksOnly W (p.withIndex (p.index.overlayAt v.path base)) := by
  -- values that are computed ask for nothing, whatever the walk of a sequence would do;
  -- so any walk may stand for that one
  have hquiet := @Congruence.of_loopValues s _ (congruence_quiet s) (fun _ _ => pure .null)
    (fun _ _ => pure .null) fun _ _ _ => rfl
  cases hvalues : loop.values with
  | generator g => exact (hquiet (.generator g) v.path v.scope).asksOnly
  | expression source => exact (hquiet (.expression source) v.path v.scope).asksOnly
  | sequence items =>
    have hitems := Loop.get?_values_of_ofValue hloop hvalues
    have hchild := h _ (.values hnode hconflict hbase hentry hloop hvalues)
    rw [Surroundings.loopValues, walkEntry_eq, hitems]
    exact hchild.bind fun _ _ _ => .onIndex_bind (Quiet.asksOnly fun _ => rfl)

theorem instances (front : List Value) {after : List Value} {made : Mapping} {q r : Progress}
    (hvalues : (s.loopValues (walkEntry s (fetchBase library s v.budget) fields "values")
      loop.values v.path v.scope).run (p.withIndex (p.index.overlayAt v.path base))
      = (.ok (front ++ after), q))
    (hmade : (s.instances (walkEntry s (fetchBase library s v.budget) fields "template") loop.key
      v.path (v.scope.inLoop (front ++ after)) front 0 []).run q = (.ok made, r)) :
    (s.instances (walkEntry s (fetchBase library s v.budget) fields "template") loop.key v.path
      (v.scope.inLoop (front ++ after)) after front.length made).AsksOnly W r := by
  induction after generalizing front made r with
  | nil =>
    rw [Surroundings.instances]
    exact Quiet.asksOnly fun _ => rfl
  | cons item after ih =>
    have htemplate := Loop.get?_template_of_ofValue hloop
    rw [Surroundings.instances]
    refine ((congruence_quiet s).of_loopKey _ _ _ _).asksOnly.bind fun k t hkey => ?_
    split
    · exact Quiet.asksOnly fun _ => rfl
    · next hnew =>
      rw [Bool.not_eq_true] at hnew
      have hchild := h _ (.template hnode hconflict hbase hentry hloop hvalues hmade hkey hnew)
      rw [walkEntry_eq, htemplate]
      refine hchild.bind fun w u hw => .onIndex_bind ?_
      have hlength : (front ++ [item]).length = front.length + 1 := by
        rw [List.length_append, List.length_singleton]
      simp only [toWalk, Scope.atItem] at hw
      rw [List.append_cons] at hvalues hmade hkey hw ⊢
      rw [← hlength]
      refine ih _ hvalues ?_
      rw [Surroundings.instances_append, run_bind_of_ok hmade, Surroundings.instances,
        Nat.zero_add, run_bind_of_ok hkey, hnew, if_neg Bool.false_ne_true, walkEntry_eq, htemplate]
      rw [run_bind_of_ok hw]
      rfl

end Loop

theorem loop {entries base : Mapping} {p : Progress} (hnode : v.node = .map entries)
    (hconflict : Directive.conflict? entries = none)
    (hbase : (walkBase s (fetchBase library s v.budget) entries v.path v.scope).run v.opening
      = (.ok base, p)) :
    (walkLoop s (fetchBase library s v.budget) entries v.path v.scope base).AsksOnly W
      (p.withIndex (p.index.overlayAt v.path base)) := by
  rw [walkLoop_eq]
  refine AsksOnly.bind_pure ?_ _
  unfold walkGenerated
  split
  · exact Quiet.asksOnly fun _ => rfl
  · next key x hentry =>
    refine AsksOnly.bind ?_ fun _ _ _ => .onIndex_bind (Quiet.asksOnly fun _ => rfl)
    by_cases hx : x.isMap = true
    · obtain ⟨fields, rfl⟩ := Value.isMap_iff.mp hx
      rw [walkInstances]
      split
      · exact Quiet.asksOnly fun _ => rfl
      · next loop hloop =>
        refine (h.values hnode hconflict hbase hentry hloop).bind fun values q hvalues => ?_
        exact h.instances hnode hconflict hbase hentry hloop [] hvalues rfl
    · rw [Bool.not_eq_true] at hx
      rw [walkInstances_of_not_isMap hx]
      exact Quiet.asksOnly fun _ => rfl

theorem own (front : List (String × Value)) {after : List (String × Value)}
    {made result : Mapping} {p q : Progress}
    (hnode : v.node = .map (front ++ after))
    (hconflict : Directive.conflict? (front ++ after) = none)
    (hmade : (walkMade s (fetchBase library s v.budget) (front ++ after) v.path v.scope).run
      v.progress = (.ok made, p))
    (hfront : (walkOwn s (fetchBase library s v.budget) front v.path v.scope made).run p
      = (.ok result, q)) :
    (walkOwn s (fetchBase library s v.budget) after v.path v.scope result).AsksOnly W q := by
  induction after generalizing front result q with
  | nil =>
    rw [walkOwn_nil]
    exact Quiet.asksOnly fun _ => rfl
  | cons e after ih =>
    obtain ⟨key, node⟩ := e
    -- the entries walked so far and this one, for the next step
    have hsnoc : walkOwn s (fetchBase library s v.budget) (front ++ [(key, node)]) v.path v.scope
      made = _ := walkOwn_append front [(key, node)] v.path v.scope made
    rw [walkOwn]
    split
    · next hkey =>
      rw [List.append_cons] at hnode hconflict hmade
      refine ih _ hnode hconflict hmade ?_
      rw [hsnoc, run_bind_of_ok hfront, walkOwn, if_pos hkey]
      rfl
    · next hkey =>
      rw [Bool.not_eq_true] at hkey
      refine (h _ (.own hnode hconflict hkey hmade hfront)).bind fun w r hw => .onIndex_bind ?_
      rw [List.append_cons] at hnode hconflict hmade
      refine ih _ hnode hconflict hmade ?_
      simp only [toWalk] at hw
      rw [hsnoc, run_bind_of_ok hfront, walkOwn, hkey, if_neg Bool.false_ne_true]
      rw [run_bind_of_ok hw]
      rfl

theorem targets (front : List (String × Value)) {after : List (String × Value)}
    {entries made own result : Mapping} {key : String} {p q r : Progress}
    (hnode : v.node = .map entries)
    (hconflict : Directive.conflict? entries = none)
    (hmade : (walkMade s (fetchBase library s v.budget) entries v.path v.scope).run v.progress
      = (.ok made, p))
    (hown : (walkOwn s (fetchBase library s v.budget) entries v.path v.scope made).run p
      = (.ok own, q))
    (hentry : Directive.update.entry? entries = some (key, .map (front ++ after)))
    (hfront : (walkTargetEntries s (fetchBase library s v.budget) front v.path v.scope own).run q
      = (.ok result, r)) :
    (walkTargetEntries s (fetchBase library s v.budget) after v.path v.scope result).AsksOnly W
      r := by
  induction after generalizing front result r with
  | nil =>
    rw [walkTargetEntries_nil]
    exact Quiet.asksOnly fun _ => rfl
  | cons e after ih =>
    obtain ⟨target, node⟩ := e
    rw [walkTargetEntries]
    refine (h _ (.update hnode hconflict hmade hown hentry hfront)).bind
      fun w t hw => .onIndex_bind ?_
    rw [List.append_cons] at hentry
    refine ih _ hentry ?_
    simp only [toWalk] at hw
    rw [walkTargetEntries_append, run_bind_of_ok hfront, walkTargetEntries, run_bind_of_ok hw]
    rfl

theorem walk (hself : ∀ reference, W (v.request reference)) :
    (v.toWalk library s).AsksOnly W v.progress := by
  unfold toWalk
  cases hnode : v.node with
  | map entries =>
    rw [walk_map_eq]
    cases hconflict : Directive.conflict? entries with
    | some conflict => exact Quiet.asksOnly fun _ => rfl
    | none =>
      have hmade : (walkMade s (fetchBase library s v.budget) entries v.path v.scope).AsksOnly W
          v.progress := by
        refine AsksOnly.onIndex_bind ?_
        refine (h.base hself hnode hconflict).bind fun base p hbase => .onIndex_bind ?_
        exact h.loop hnode hconflict hbase
      -- base and loop, own entries, updates: each is walked from where the one before ended
      refine hmade.bind fun made p hmade => ?_
      refine (h.own [] hnode hconflict hmade rfl).bind fun own q hown => ?_
      refine (AsksOnly.walkUpdates fun key targets hentry => ?_).bind_pure _
      exact h.targets [] hnode hconflict hmade hown hentry rfl
  | list items =>
    rw [walk_list_eq]
    exact .onIndex_bind ((h.items [] hnode rfl).bind_pure _)
  | str source => exact ((congruence_quiet s).of_walkText source v.path v.scope).asksOnly
  | null | bool | int | float => exact Quiet.asksOnly fun _ => rfl

end AsksOnlyBelow

/-! ### Whole walks -/

/-- **Each step to another node** uses up some of the budget or goes down in a document. -/
theorem Child.lt {v w : Visit} (h : Child library s v w) :
    w.budget < v.budget ∨ w.budget = v.budget ∧ sizeOf w.node < sizeOf v.node := by
  cases h with
  | item hnode => exact Or.inr ⟨rfl, hnode ▸ Value.sizeOf_lt_of_item List.mem_append_cons_self⟩
  | inline hnode _ hentry => exact Or.inr ⟨rfl, hnode ▸ Value.sizeOf_lt_of_entry? hentry⟩
  -- another document may be of any size, and costs some of the budget
  | document _ _ _ _ _ hbudget => exact Or.inl (hbudget ▸ Nat.lt_succ_self _)
  | values hnode _ _ hentry hloop hvalues =>
    have hitems := Value.sizeOf_lt_of_get? (Loop.get?_values_of_ofValue hloop hvalues)
    have hfields := Value.sizeOf_lt_of_entry? hentry
    exact Or.inr ⟨rfl, hnode ▸ Nat.lt_trans hitems hfields⟩
  | template hnode _ _ hentry hloop =>
    have htemplate := Value.sizeOf_lt_of_get? (Loop.get?_template_of_ofValue hloop)
    have hfields := Value.sizeOf_lt_of_entry? hentry
    exact Or.inr ⟨rfl, hnode ▸ Nat.lt_trans htemplate hfields⟩
  | own hnode => exact Or.inr ⟨rfl, hnode ▸ Value.sizeOf_lt_of_mem List.mem_append_cons_self⟩
  | update hnode _ _ _ hentry =>
    refine Or.inr ⟨rfl, hnode ▸ Nat.lt_trans ?_ (Value.sizeOf_lt_of_entry? hentry)⟩
    exact Value.sizeOf_lt_of_mem List.mem_append_cons_self

/-- What the nodes ask for that the walk of the node comes to. -/
def Asked (library : Library) (s : Surroundings) (v : Visit) (r : Request) : Prop :=
  ∃ w reference, Walked library s v w ∧ r = w.request reference

/-- **The walk of a node asks only for what the nodes ask for that it comes to.** -/
theorem asksOnly_walk (v : Visit) :
    (v.toWalk library s).AsksOnly (v.Asked library s) v.progress := by
  refine AsksOnlyBelow.walk (fun w hw => ?_) fun reference => ⟨v, reference, .refl, rfl⟩
  refine (asksOnly_walk w).mono ?_
  rintro r ⟨u, reference, hu, hr⟩
  exact ⟨u, reference, .head hw hu, hr⟩
termination_by (v.budget, sizeOf v.node)
decreasing_by
  rcases hw.lt with hlt | ⟨heq, hlt⟩
  · exact Prod.Lex.left _ _ hlt
  · rw [heq]
    exact Prod.Lex.right _ hlt

end Visit

end ConfigTree
