import ConfigTree.Proofs.Walk.Closure
import ConfigTree.Proofs.Walk.Layers
import Mathlib

/-!
# Walks that are alike

Two walks are alike if they do the same, except that a failure of the one may quote a
directive in another spelling than that of the other.  What is put together from steps
that are alike is alike.  So mappings are walked alike if their entries are, one by one,
and a loop is if a node in its fields is.

## Main definitions

* `DocumentFault.Alike` — faults that differ at most in the directives that they quote.
* `Walk.Alike act act'` — two steps that do the same, but for such faults.
* `Directive.purposes entries` — the purposes of the directives of a mapping.
* `Walk.EntryAlike s fetch e e'` — two entries whose parts are walked alike.

## Main results

* `Directive.conflict?_eq_none_iff` — a mapping has no conflict if no two of its directives
  have one purpose.
* `alike_walk_map` — mappings whose entries are walked alike are walked alike.
* `alike_walkInstances` — loops are walked alike if a node in their fields is.
-/

namespace ConfigTree

open Walk

/-! ### Failures alike -/

/-- Two faults that differ at most in the directives that they quote.  A directive is quoted in
another spelling of the same; only if there are too many of them, others may be quoted. -/
inductive DocumentFault.Alike : DocumentFault → DocumentFault → Prop
  /-- The same fault. -/
  | refl (fault : DocumentFault) : Alike fault fault
  /-- The same is wrong with a directive, spelt in one way and in another. -/
  | named {name name' : String} (fault : DirectiveFault) :
    Directive.ofKey? name = Directive.ofKey? name' →
      Alike (.directive name fault) (.directive name' fault)
  /-- Two directives serve one purpose. -/
  | conflict {name previous name' previous' : String} :
    Directive.isKey name → Directive.isKey previous →
      Directive.isKey name' → Directive.isKey previous' →
      Alike (.directive name (.conflict previous)) (.directive name' (.conflict previous'))

theorem DocumentFault.Alike.trans {a b c : DocumentFault} (hab : a.Alike b) (hbc : b.Alike c) :
    a.Alike c := by
  cases hab with
  | refl => exact hbc
  | named fault h =>
    cases hbc with
    | refl => exact .named fault h
    | named _ h' => exact .named fault (h.trans h')
    | conflict hn hp hn' hp' =>
      refine .conflict ?_ hp hn' hp'
      rwa [Directive.isKey, h]
  | conflict hn hp hn' hp' =>
    cases hbc with
    | refl => exact .conflict hn hp hn' hp'
    | named _ h' =>
      refine .conflict hn hp ?_ hp'
      rwa [Directive.isKey, ← h']
    | conflict _ _ hn'' hp'' => exact .conflict hn hp hn'' hp''

/-- Two outcomes: the same value, or failures at the same place with faults alike. -/
inductive Walk.AlikeOutcome {α : Type} : Except DocumentError α → Except DocumentError α → Prop
  /-- The same value. -/
  | ok (a : α) : AlikeOutcome (.ok a) (.ok a)
  /-- Failures alike. -/
  | error {path : TreePath} {fault fault' : DocumentFault} :
    fault.Alike fault' → AlikeOutcome (.error ⟨path, fault⟩) (.error ⟨path, fault'⟩)

/-- Two steps that do the same, but for faults alike. -/
def Walk.Alike {α : Type} (act act' : Walk α) : Prop :=
  ∀ p, AlikeOutcome (act.run p).1 (act'.run p).1 ∧ (act.run p).2 = (act'.run p).2

namespace Walk

variable {α β : Type} {act act' act'' : Walk α} {s : Surroundings}

theorem AlikeOutcome.refl : ∀ outcome : Except DocumentError α, AlikeOutcome outcome outcome
  | .ok a => .ok a
  | .error _ => .error (.refl _)

theorem AlikeOutcome.trans {a b c : Except DocumentError α} (hab : AlikeOutcome a b)
    (hbc : AlikeOutcome b c) : AlikeOutcome a c := by
  cases hab with
  | ok a => exact hbc
  | error h =>
    cases hbc with
    | error h' => exact .error (h.trans h')

theorem Alike.refl (act : Walk α) : act.Alike act := fun _ => ⟨.refl _, rfl⟩

theorem Alike.of_eq (h : act = act') : act.Alike act' := h ▸ .refl act

theorem Alike.trans (h : act.Alike act') (h' : act'.Alike act'') : act.Alike act'' :=
  fun p => ⟨(h p).1.trans (h' p).1, (h p).2.trans (h' p).2⟩

theorem Alike.bind {f f' : α → Walk β} (ha : act.Alike act') (hf : ∀ a, (f a).Alike (f' a)) :
    (act >>= f).Alike (act' >>= f') := by
  intro p
  obtain ⟨houtcome, hprogress⟩ := ha p
  rcases h : act.run p with ⟨outcome, q⟩
  rcases h' : act'.run p with ⟨outcome', q'⟩
  rw [h, h'] at houtcome hprogress
  obtain rfl : q = q' := hprogress
  cases houtcome with
  | ok a =>
    rw [run_bind_of_ok h, run_bind_of_ok h']
    exact hf a q
  | error he =>
    rw [run_bind_of_error h, run_bind_of_error h']
    exact ⟨.error he, rfl⟩

theorem Alike.fail (path : TreePath) {fault fault' : DocumentFault} (h : fault.Alike fault') :
    (fail path fault : Walk α).Alike (fail path fault') := fun _ => ⟨.error h, rfl⟩

theorem Alike.inside (ha : act.Alike act') (file : Option String) :
    (inside file act).Alike (inside file act') := by
  intro p
  rw [run_inside, run_inside]
  exact ⟨(ha (p.enter file)).1, congrArg (·.leave file p) (ha (p.enter file)).2⟩

/-- If one of the two has a value, the other has the same. -/
theorem Alike.ok_iff (h : act.Alike act') (p : Progress) (a : α) :
    (act.run p).1 = .ok a ↔ (act'.run p).1 = .ok a := by
  cases hrun : (act.run p).1 <;> cases hrun' : (act'.run p).1 <;> have houtcome := (h p).1 <;>
    rw [hrun, hrun'] at houtcome <;> cases houtcome <;> simp

/-- If one of the two fails, so does the other. -/
theorem Alike.exists_error (h : act.Alike act') {p : Progress} {e : DocumentError}
    (he : (act.run p).1 = .error e) :
    ∃ e', (act'.run p).1 = .error e' ∧ e'.path = e.path ∧ e.fault.Alike e'.fault := by
  have houtcome := (h p).1
  rw [he] at houtcome
  generalize (act'.run p).1 = outcome' at houtcome
  cases houtcome with
  | error hfault => exact ⟨_, rfl, rfl, hfault⟩

theorem congruence_alike (s : Surroundings) : Congruence s fun _ => Alike where
  pure _ _ := .refl _
  bind ha hf := ha.bind hf
  fail _ _ _ _ := .refl _
  evaluate _ _ _ := .refl _
  kept _ _ _ := .refl _
  put _ _ _ := .refl _
  openMap _ := .refl _
  overlayAt _ _ := .refl _
  forget _ _ := .refl _
  below ha := ha

end Walk

/-! ### Purposes -/

namespace Directive

/-- The purpose of the directive that a key spells. -/
def purpose? (key : String) : Option Purpose := (ofKey? key).map purpose

/-- The purposes of the directives of a mapping, in their order. -/
def purposes (entries : Mapping) : List Purpose := entries.filterMap fun e => purpose? e.1

theorem isKey_eq_false_iff {key : String} : isKey key = false ↔ ofKey? key = none := by
  simp [isKey]

theorem purposes_cons_of_none {key : String} (h : ofKey? key = none) (v : Value)
    (entries : Mapping) : purposes ((key, v) :: entries) = purposes entries := by
  simp [purposes, purpose?, h]

theorem purposes_cons_of_some {key : String} {d : Directive} (h : ofKey? key = some d) (v : Value)
    (entries : Mapping) : purposes ((key, v) :: entries) = d.purpose :: purposes entries := by
  simp [purposes, purpose?, h]

theorem conflictAfter_eq_none_iff (served : List (Purpose × String)) (entries : Mapping) :
    conflictAfter served entries = none
      ↔ (purposes entries).Nodup ∧ ∀ a ∈ purposes entries, served.lookup a = none := by
  induction entries generalizing served with
  | nil => simp [conflictAfter, purposes]
  | cons e entries ih =>
    obtain ⟨key, v⟩ := e
    rw [conflictAfter]
    cases hd : ofKey? key with
    | none =>
      rw [purposes_cons_of_none hd]
      exact ih served
    | some d =>
      rw [purposes_cons_of_some hd, List.nodup_cons, List.forall_mem_cons]
      cases hl : served.lookup d.purpose with
      -- a purpose that is served already conflicts at once
      | some previous => simp [hl]
      | none =>
        simp only [hl, ih, List.lookup_cons]
        -- otherwise it is served from here on, so that none of the later ones may have it
        grind

/-- A mapping has no conflict if no two of its directives have one purpose. -/
theorem conflict?_eq_none_iff (entries : Mapping) :
    conflict? entries = none ↔ (purposes entries).Nodup := by
  simp [conflict?, conflictAfter_eq_none_iff]

theorem isKey_of_conflictAfter {served : List (Purpose × String)}
    (hs : ∀ e ∈ served, isKey e.2 = true) {entries : Mapping} {key previous : String}
    (h : conflictAfter served entries = some (key, previous)) :
    isKey key = true ∧ isKey previous = true := by
  induction entries generalizing served with
  | nil => cases h
  | cons e entries ih =>
    obtain ⟨k, v⟩ := e
    rw [conflictAfter] at h
    cases hd : ofKey? k with
    | none =>
      rw [hd] at h
      exact ih hs h
    | some d =>
      have hk : isKey k = true := by simp [isKey, hd]
      rw [hd] at h
      cases hl : served.lookup d.purpose with
      | some prior =>
        simp only [hl, Option.some.injEq, Prod.mk.injEq] at h
        obtain ⟨rfl, rfl⟩ := h
        -- what is served was put there under a key of its own, in an earlier step
        obtain ⟨before, after, rfl, -⟩ := List.lookup_eq_some_iff.mp hl
        exact ⟨hk, hs (d.purpose, prior) (by simp)⟩
      | none =>
        simp only [hl] at h
        exact ih (List.forall_mem_cons.mpr ⟨hk, hs⟩) h

theorem isKey_of_conflict? {entries : Mapping} {key previous : String}
    (h : conflict? entries = some (key, previous)) : isKey key = true ∧ isKey previous = true :=
  isKey_of_conflictAfter (by simp) h

end Directive

section Nodes

variable {s : Surroundings} {fetch : String → String → TreePath → Scope → Walk Mapping}

/-! ### Entries that are walked alike -/

variable (s fetch) in
/-- Two entries whose parts are walked alike: entries of one key, or directives that differ at most
in their spelling. -/
structure Walk.EntryAlike (e e' : String × Value) : Prop where
  /-- They are the same directive, or both none. -/
  ofKey?_eq : Directive.ofKey? e.1 = Directive.ofKey? e'.1
  /-- If they are none, they have one key. -/
  key_eq : Directive.isKey e.1 = false → e.1 = e'.1
  /-- Their values are of one sort. -/
  kind_eq : e.2.kind = e'.2.kind
  /-- If these are texts, they are the same. -/
  str?_eq : e.2.str? = e'.2.str?
  /-- What is walked as a node is walked alike. -/
  walked : Directive.ofKey? e.1 = none ∨ Directive.ofKey? e.1 = some .extend →
    ∀ path scope, (walk s fetch e.2 path scope).Alike (walk s fetch e'.2 path scope)
  /-- So are the instances of a loop. -/
  looped : Directive.ofKey? e.1 = some .loop → ∀ path scope,
    (walkInstances s fetch e.2 path scope).Alike (walkInstances s fetch e'.2 path scope)
  /-- And so are updates. -/
  updated : Directive.ofKey? e.1 = some .update → ∀ path scope result,
    (walkTargets s fetch e.2 e.1 path scope result).Alike
      (walkTargets s fetch e'.2 e'.1 path scope result)

theorem Value.isMap_eq_of_kind_eq {v v' : Value} (h : v.kind = v'.kind) : v.isMap = v'.isMap := by
  cases v <;> cases v' <;> first | rfl | cases h

/-- The spelling of an update is of no account for what it does. -/
theorem alike_walkTargets_spelling (v : Value) {key key' : String}
    (h : Directive.ofKey? key = Directive.ofKey? key') (path : TreePath) (scope : Scope)
    (result : Mapping) :
    (walkTargets s fetch v key path scope result).Alike
      (walkTargets s fetch v key' path scope result) := by
  by_cases hv : v.isMap = true
  · obtain ⟨targets, rfl⟩ := Value.isMap_iff.mp hv
    rw [walkTargets, walkTargets]
    exact .refl _
  · rw [Bool.not_eq_true] at hv
    rw [walkTargets_of_not_isMap hv, walkTargets_of_not_isMap hv]
    exact .fail path (.named _ h)

theorem Walk.EntryAlike.spelling (v : Value) {key key' : String} (hkey : Directive.isKey key)
    (h : Directive.ofKey? key = Directive.ofKey? key') : EntryAlike s fetch (key, v) (key', v) where
  ofKey?_eq := h
  key_eq hno := absurd hkey (by simp [hno])
  kind_eq := rfl
  str?_eq := rfl
  walked _ _ _ := .refl _
  looped _ _ _ := .refl _
  updated _ := alike_walkTargets_spelling v h

theorem Walk.EntryAlike.refl (e : String × Value) : EntryAlike s fetch e e where
  ofKey?_eq := rfl
  key_eq _ := rfl
  kind_eq := rfl
  str?_eq := rfl
  walked _ _ _ := .refl _
  looped _ _ _ := .refl _
  updated _ _ _ _ := .refl _

/-- An entry whose value is walked as a node. -/
theorem Walk.EntryAlike.node {key : String} {v v' : Value}
    (hkey : Directive.ofKey? key = none ∨ Directive.ofKey? key = some .extend)
    (hkind : v.kind = v'.kind) (hstr : v.str? = v'.str?)
    (hw : ∀ path scope, (walk s fetch v path scope).Alike (walk s fetch v' path scope)) :
    EntryAlike s fetch (key, v) (key, v') where
  ofKey?_eq := rfl
  key_eq _ := rfl
  kind_eq := hkind
  str?_eq := hstr
  walked _ := hw
  looped hloop := by rcases hkey with h | h <;> cases h.symm.trans hloop
  updated hupdate := by rcases hkey with h | h <;> cases h.symm.trans hupdate

/-- A loop. -/
theorem Walk.EntryAlike.loop {key : String} {fields fields' : Mapping}
    (hkey : Directive.ofKey? key = some .loop)
    (hw : ∀ path scope, (walkInstances s fetch (.map fields) path scope).Alike
      (walkInstances s fetch (.map fields') path scope)) :
    EntryAlike s fetch (key, .map fields) (key, .map fields') where
  ofKey?_eq := rfl
  key_eq _ := rfl
  kind_eq := rfl
  str?_eq := rfl
  walked hnode := by rcases hnode with h | h <;> cases hkey.symm.trans h
  looped _ := hw
  updated hupdate := by cases hkey.symm.trans hupdate

/-- Updates. -/
theorem Walk.EntryAlike.update {key : String} {targets targets' : Mapping}
    (hkey : Directive.ofKey? key = some .update)
    (hw : ∀ path scope result,
      (walkTargetEntries s fetch targets path scope result).Alike
        (walkTargetEntries s fetch targets' path scope result)) :
    EntryAlike s fetch (key, .map targets) (key, .map targets') where
  ofKey?_eq := rfl
  key_eq _ := rfl
  kind_eq := rfl
  str?_eq := rfl
  walked hnode := by rcases hnode with h | h <;> cases hkey.symm.trans h
  looped hloop := by cases hkey.symm.trans hloop
  updated _ path scope result := by
    rw [walkTargets, walkTargets]
    exact hw path scope result

theorem Walk.EntryAlike.among {e e' : String × Value} (h : EntryAlike s fetch e e')
    (front after : Mapping) :
    List.Forall₂ (EntryAlike s fetch) (front ++ e :: after) (front ++ e' :: after) :=
  List.rel_append (List.forall₂_same.mpr fun _ _ => .refl _)
    (.cons h (List.forall₂_same.mpr fun _ _ => .refl _))

variable {entries entries' : Mapping} (h : List.Forall₂ (EntryAlike s fetch) entries entries')

include h

theorem purposes_eq_of_alike : Directive.purposes entries = Directive.purposes entries' := by
  induction h with
  | nil => rfl
  | cons he _ ih =>
    simp only [Directive.purposes, List.filterMap_cons, Directive.purpose?, he.ofKey?_eq] at ih ⊢
    rw [ih]

theorem alike_walkBase
    (hf : ∀ key key', Directive.ofKey? key = Directive.ofKey? key' → ∀ reference path scope,
      (fetch key reference path scope).Alike (fetch key' reference path scope))
    (path : TreePath) (scope : Scope) :
    (walkBase s fetch entries path scope).Alike (walkBase s fetch entries' path scope) := by
  induction h with
  | nil => exact .refl _
  | @cons e e' _ _ he _ ih =>
    obtain ⟨key, v⟩ := e
    obtain ⟨key', v'⟩ := e'
    have hkind : v.kind = v'.kind := he.kind_eq
    have hstr : v.str? = v'.str? := he.str?_eq
    have hdir : Directive.ofKey? key = Directive.ofKey? key' := he.ofKey?_eq
    rw [walkBase, walkBase, ← hdir, ← hstr, ← hkind, ← Value.isMap_eq_of_kind_eq hkind]
    split
    -- an inline base: walked as a node, and only its sort and text decide before that
    · next hextend =>
      split
      · exact .refl _
      · split
        · exact (he.walked (.inr hextend) path scope).bind fun _ => .refl _
        · exact .fail path (.named _ hdir)
    · split
      · exact hf key key' hdir _ path scope
      · exact .fail path (.named _ hdir)
    · exact ih

theorem alike_walkLoop (path : TreePath) (scope : Scope) (base : Mapping) :
    (walkLoop s fetch entries path scope base).Alike
      (walkLoop s fetch entries' path scope base) := by
  induction h with
  | nil => exact .refl _
  | @cons e e' _ _ he _ ih =>
    obtain ⟨key, v⟩ := e
    obtain ⟨key', v'⟩ := e'
    have hdir : Directive.ofKey? key = Directive.ofKey? key' := he.ofKey?_eq
    rw [walkLoop, walkLoop, ← hdir]
    split
    · next hloop => exact (he.looped hloop path scope).bind fun _ => .refl _
    · exact ih

theorem alike_walkOwn (path : TreePath) (scope : Scope) (result : Mapping) :
    (walkOwn s fetch entries path scope result).Alike
      (walkOwn s fetch entries' path scope result) := by
  induction h generalizing result with
  | nil => exact .refl _
  | @cons e e' _ _ he _ ih =>
    obtain ⟨key, v⟩ := e
    obtain ⟨key', v'⟩ := e'
    have hdir : Directive.isKey key = Directive.isKey key' := congrArg Option.isSome he.ofKey?_eq
    rw [walkOwn, walkOwn, ← hdir]
    split
    · exact ih result
    · next hown =>
      rw [Bool.not_eq_true] at hown
      -- no directive, so both have one key; the place is then the same,
      -- and so is what is laid over the result
      obtain rfl : key = key' := he.key_eq hown
      have hnone := Directive.isKey_eq_false_iff.mp hown
      refine (he.walked (.inl hnone) (path.entry key) scope).bind fun w => ?_
      -- both lay one value there, and go on from one result
      exact (Alike.refl _).bind fun _ => ih _

theorem alike_walkUpdates (path : TreePath) (scope : Scope) (result : Mapping) :
    (walkUpdates s fetch entries path scope result).Alike
      (walkUpdates s fetch entries' path scope result) := by
  induction h with
  | nil => exact .refl _
  | @cons e e' _ _ he _ ih =>
    obtain ⟨key, v⟩ := e
    obtain ⟨key', v'⟩ := e'
    have hdir : Directive.ofKey? key = Directive.ofKey? key' := he.ofKey?_eq
    rw [walkUpdates, walkUpdates, ← hdir]
    split
    · next hupdate => exact he.updated hupdate path scope result
    · exact ih

/-- **Mappings whose entries are walked alike are walked alike.** -/
theorem alike_walk_map
    (hf : ∀ key key', Directive.ofKey? key = Directive.ofKey? key' → ∀ reference path scope,
      (fetch key reference path scope).Alike (fetch key' reference path scope))
    (path : TreePath) (scope : Scope) :
    (walk s fetch (.map entries) path scope).Alike (walk s fetch (.map entries') path scope) := by
  rw [walk_map_eq, walk_map_eq]
  -- whether they conflict depends on the purposes alone; which keys are told of does not
  have hiff : Directive.conflict? entries = none ↔ Directive.conflict? entries' = none := by
    rw [Directive.conflict?_eq_none_iff, Directive.conflict?_eq_none_iff, purposes_eq_of_alike h]
  cases hc : Directive.conflict? entries with
  | some conflict =>
    cases hc' : Directive.conflict? entries' with
    | some conflict' =>
      obtain ⟨hkey, hprevious⟩ := Directive.isKey_of_conflict? hc
      obtain ⟨hkey', hprevious'⟩ := Directive.isKey_of_conflict? hc'
      exact .fail path (.conflict hkey hprevious hkey' hprevious')
    | none => simp [hc, hc'] at hiff
  | none =>
    rw [hiff.mp hc]
    -- no conflict: the steps of the one are those of the other, in turn
    refine Alike.bind ?_ fun made => ?_
    · refine (Alike.refl _).bind fun _ => ?_
      refine (alike_walkBase h hf path scope).bind fun base => ?_
      exact (Alike.refl _).bind fun _ => alike_walkLoop h path scope base
    · refine (alike_walkOwn h path scope made).bind fun own => ?_
      exact (alike_walkUpdates h path scope own).bind fun _ => .refl _

omit h

/-! ### Loops -/

/-- The values of a loop without the nodes among them. -/
def LoopValues.outline : LoopValues → LoopValues
  | .sequence _ => .sequence []
  | values => values

/-- What a walk of a loop takes from the loop itself; nodes it takes from the fields. -/
def Loop.outline (l : Loop) : LoopValues × Option String := (l.values.outline, l.key)

theorem loopValues_outline (sequence : TreePath → Scope → Walk Value) (values : LoopValues) :
    s.loopValues sequence values.outline = s.loopValues sequence values := by
  cases values <;> rfl

/-- What a walk of a loop takes from its fields but for the nodes. -/
def Loop.outlineOf (fields : Mapping) : Except DocumentFault (LoopValues × Option String) := do
  let values ← (Loop.valuesOf (fields.get? "values")).map LoopValues.outline
  let _ ← (Loop.templateOf (fields.get? "template")).map fun _ => ()
  let key ← Loop.keyOf (fields.get? "key")
  match fields.keys.find? fun field => !fieldNames.contains field with
  | some field => throw (.malformedLoop (.unknownField field))
  | none => return (values, key)

theorem Loop.map_outline_ofValue (fields : Mapping) :
    (Loop.ofValue (.map fields)).map Loop.outline = Loop.outlineOf fields := by
  rw [Loop.ofValue, Loop.outlineOf]
  cases Loop.valuesOf (fields.get? "values") with
  | error => rfl
  | ok values =>
    cases Loop.templateOf (fields.get? "template") with
    | error => rfl
    | ok template =>
      cases Loop.keyOf (fields.get? "key") with
      | error => rfl
      | ok key =>
        -- what is left is the look for a field that is not known
        simp only [Except.map, ok_bind]
        cases fields.keys.find? fun field => !fieldNames.contains field <;> rfl

/-- Another node under a field name. -/
theorem Entries.get?_replaced {α : Type} (before after : Entries α) (name : String) (v v' : α) :
    (∀ key, Entries.get? (before ++ (name, v) :: after) key
      = Entries.get? (before ++ (name, v') :: after) key)
    ∨ Entries.get? (before ++ (name, v) :: after) name = some v
      ∧ Entries.get? (before ++ (name, v') :: after) name = some v'
      ∧ ∀ key, key ≠ name → Entries.get? (before ++ (name, v) :: after) key
        = Entries.get? (before ++ (name, v') :: after) key := by
  simp only [Entries.get?_append, Entries.get?_cons]
  cases h : Entries.get? before name with
  | none => right; grind
  | some w => left; grind

/-- A field of a loop that is walked as a node: its template, or its values if they are a list. -/
def Loop.IsNode (name : String) (v : Value) : Prop :=
  name = "template" ∨ name = "values" ∧ v.kind = .list

theorem Loop.outlineOf_replaced {before after : Mapping} {name : String} {v v' : Value}
    (hv : Loop.IsNode name v) (hkind : v.kind = v'.kind) :
    Loop.outlineOf (before ++ (name, v) :: after)
      = Loop.outlineOf (before ++ (name, v') :: after) := by
  -- the names of the fields are the same, so an unknown one is found in both or in none
  have hkeys : Entries.keys (before ++ (name, v) :: after)
      = Entries.keys (before ++ (name, v') :: after) := by simp [Entries.keys]
  unfold Loop.outlineOf
  rw [hkeys]
  rcases Entries.get?_replaced before after name v v' with h | ⟨hget, hget', h⟩
  · rw [h, h, h]
  · rcases hv with rfl | ⟨rfl, hlist⟩
    · have htemplate : (Loop.templateOf (some v)).map (fun _ => ())
          = (Loop.templateOf (some v')).map fun _ => () := by
        cases v <;> cases v' <;> first | rfl | cases hkind
      rw [hget, hget', htemplate, h _ (by decide), h _ (by decide)]
    · have hvalues : (Loop.valuesOf (some v)).map LoopValues.outline
          = (Loop.valuesOf (some v')).map LoopValues.outline := by
        cases v <;> cases hlist
        cases v' <;> cases hkind
        rfl
      rw [hget, hget', hvalues, h _ (by decide), h _ (by decide)]

/-- Updates are walked alike if one of them is. -/
theorem alike_walkTargetEntries {before after : Mapping} {target : String} {v v' : Value}
    (hw : ∀ path scope, (walk s fetch v path scope).Alike (walk s fetch v' path scope))
    (path : TreePath) (scope : Scope) (result : Mapping) :
    (walkTargetEntries s fetch (before ++ (target, v) :: after) path scope result).Alike
      (walkTargetEntries s fetch (before ++ (target, v') :: after) path scope result) := by
  rw [walkTargetEntries_append, walkTargetEntries_append]
  refine (Alike.refl _).bind fun result => ?_
  rw [walkTargetEntries, walkTargetEntries]
  exact (hw (path.dotted target) scope).bind fun w => .refl _

/-- **Loops are walked alike if a node in their fields is.** -/
theorem alike_walkInstances {before after : Mapping} {name : String} {v v' : Value}
    (hv : Loop.IsNode name v) (hkind : v.kind = v'.kind)
    (hw : ∀ path scope, (walk s fetch v path scope).Alike (walk s fetch v' path scope))
    (path : TreePath) (scope : Scope) :
    (walkInstances s fetch (.map (before ++ (name, v) :: after)) path scope).Alike
      (walkInstances s fetch (.map (before ++ (name, v') :: after)) path scope) := by
  -- a field is the one node that was replaced, or the same in both
  have hentry (key : String) (path : TreePath) (scope : Scope) :
      (walkEntry s fetch (before ++ (name, v) :: after) key path scope).Alike
        (walkEntry s fetch (before ++ (name, v') :: after) key path scope) := by
    rw [walkEntry_eq, walkEntry_eq]
    rcases Entries.get?_replaced before after name v v' with h | ⟨hget, hget', h⟩
    · rw [h]
      exact .refl _
    · by_cases hkey : key = name
      · subst hkey
        rw [hget, hget']
        exact hw path scope
      · rw [h key hkey]
        exact .refl _
  have hloop := Loop.map_outline_ofValue (before ++ (name, v) :: after)
  rw [Loop.outlineOf_replaced hv hkind, ← Loop.map_outline_ofValue] at hloop
  rw [walkInstances, walkInstances]
  -- the outlines are equal, so both loops are refused with one fault, or both are read
  rcases h : Loop.ofValue (.map (before ++ (name, v) :: after)) with fault | l <;>
    rcases h' : Loop.ofValue (.map (before ++ (name, v') :: after)) with fault' | l' <;>
    rw [h, h'] at hloop
  · obtain rfl : fault = fault' := Except.error.inj hloop
    exact .refl _
  · cases hloop
  · cases hloop
  · obtain ⟨values, template, key⟩ := l
    obtain ⟨values', template', key'⟩ := l'
    obtain ⟨hvalues, hkey⟩ := Prod.mk.inj (Except.ok.inj hloop)
    obtain rfl : key = key' := hkey
    -- the values may still differ in the nodes, and those are taken from the fields
    have hsame : s.loopValues (walkEntry s fetch (before ++ (name, v) :: after) "values") values
        = s.loopValues (walkEntry s fetch (before ++ (name, v) :: after) "values") values' := by
      rw [← loopValues_outline _ values, ← loopValues_outline _ values']
      exact congrArg _ hvalues
    refine Alike.bind ?_ fun items => ?_
    · rw [hsame]
      exact (congruence_alike s).of_loopValues (hentry "values") values' path scope
    · exact (congruence_alike s).of_instances (hentry "template") key path _ items 0 []

end Nodes

end ConfigTree
