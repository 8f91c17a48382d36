import ConfigTree.Document.Walk

/-!
# Steps of a walk, one at a time

A walk is a function from a progress to an outcome and the next progress.  Here is what
the single steps do to a progress, and how a run of two steps comes apart into the runs
of the two; later proofs look into walks by these statements only.

## Main definitions

* `Progress.withIndex` — the progress with another index.
* `walkMade` — what a mapping holds before its own entries: its base and its instances.

## Main results

* `Walk.run_bind_eq_ok_iff` — a run of two steps that goes well.
* `walk_map_eq`, `walk_list_eq`, `walk_str_eq`, `walk_eq_pure` — the walk of a node, by the kind
  of the node.
* `run_walk_map_eq_ok`, `run_walk_list_eq_ok` — a walk of a mapping or list that goes well,
  with its parts.
-/

namespace ConfigTree

/-- The progress with another index. -/
def Progress.withIndex (p : Progress) (index : Value) : Progress := { p with index := index }

namespace Progress

@[simp] theorem index_withIndex (p : Progress) (t : Value) : (p.withIndex t).index = t := rfl

@[simp] theorem texts_withIndex (p : Progress) (t : Value) : (p.withIndex t).texts = p.texts := rfl

@[simp] theorem withIndex_withIndex (p : Progress) (t u : Value) :
    (p.withIndex t).withIndex u = p.withIndex u := rfl

end Progress

namespace Walk

variable {α β : Type}

/-! ### Single steps -/

@[simp] theorem run_pure (a : α) (p : Progress) : (pure a : Walk α).run p = (.ok a, p) := rfl

@[simp] theorem run_fail (path : TreePath) (fault : DocumentFault) (p : Progress) :
    (fail path fault : Walk α).run p = (.error ⟨path, fault⟩, p) := rfl

@[simp] theorem run_onIndex (f : Value → Value) (p : Progress) :
    (onIndex f).run p = (.ok (), p.withIndex (f p.index)) := rfl

@[simp] theorem run_logKept (path : TreePath) (e : EvalError) (p : Progress) :
    (logKept path e).run p = (.ok (), { p with log := p.log.addKept path e }) := rfl

@[simp] theorem run_ask (reference : String) (p : Progress) :
    (ask reference).run p = (.ok ⟨reference, p.origin, p.opened⟩,
      { p with requests := p.requests ++ [⟨reference, p.origin, p.opened⟩] }) := rfl

@[simp] theorem run_inside (file : Option String) (act : Walk α) (p : Progress) :
    (inside file act).run p
      = ((act.run (p.enter file)).1, (act.run (p.enter file)).2.leave file p) := rfl

/-! ### Two steps -/

variable {act : Walk α} {f : α → Walk β} {p q r : Progress} {a : α} {b : β} {e : DocumentError}

theorem run_pure_eq_ok_iff {a' : α} :
    (pure a : Walk α).run p = (.ok a', q) ↔ a = a' ∧ p = q := by
  rw [run_pure, Prod.mk.injEq, Except.ok.injEq]

theorem run_bind (act : Walk α) (f : α → Walk β) (p : Progress) :
    (act >>= f).run p = match act.run p with
      | (.ok a, q) => (f a).run q
      | (.error e, q) => (.error e, q) := by
  rcases h : act.run p with ⟨_ | a, q⟩ <;>
    simp [run, bind, ExceptT.bind, ExceptT.mk, StateT.bind] at h ⊢ <;> rw [h] <;> rfl

theorem run_bind_of_ok (h : act.run p = (.ok a, q)) : (act >>= f).run p = (f a).run q := by
  rw [run_bind, h]

theorem run_bind_of_error (h : act.run p = (.error e, q)) :
    (act >>= f).run p = (.error e, q) := by
  rw [run_bind, h]

/-- **A run of two steps that goes well** is a run of the one and then of the other. -/
theorem run_bind_eq_ok_iff : (act >>= f).run p = (.ok b, r) ↔
    ∃ a q, act.run p = (.ok a, q) ∧ (f a).run q = (.ok b, r) := by
  rw [run_bind]
  rcases act.run p with ⟨_ | a, q⟩
  · simp
  · constructor
    · intro h
      exact ⟨a, q, rfl, h⟩
    · rintro ⟨a', q', h, hf⟩
      obtain ⟨rfl, rfl⟩ : a = a' ∧ q = q' := by simpa using h
      exact hf

/-- Steps that go on alike from all that the first can give. -/
theorem run_bind_congr {f g : α → Walk β}
    (h : ∀ a q, act.run p = (.ok a, q) → (f a).run q = (g a).run q) :
    (act >>= f).run p = (act >>= g).run p := by
  rcases ha : act.run p with ⟨e | a, q⟩
  · rw [run_bind_of_error ha, run_bind_of_error ha]
  · rw [run_bind_of_ok ha, run_bind_of_ok ha, h a q ha]

@[simp] theorem run_onIndex_bind (g : Value → Value) (f : Unit → Walk β) (p : Progress) :
    (onIndex g >>= f).run p = (f ()).run (p.withIndex (g p.index)) := run_bind_of_ok rfl

end Walk

open Walk

@[simp] theorem Surroundings.run_environmentNow (s : Surroundings) (scope : Scope)
    (path : TreePath) (p : Progress) : (s.environmentNow scope path).run p
      = (.ok (s.environmentAt p.texts p.index scope path), p.evaluating) := rfl

/-- A text in a document always has a value, and why it is kept, if it is, is logged. -/
theorem Surroundings.run_walkText (s : Surroundings) (source : String) (path : TreePath)
    (scope : Scope) (p : Progress) :
    let out := (s.environmentAt p.texts p.index scope path.parent).settle source
    (s.walkText source path scope).run p = (.ok out.1,
      { p.evaluating with log := p.log ++ (out.2.map fun e => ⟨path, .kept e⟩).toList }) := by
  intro out
  rw [walkText, run_bind_of_ok (s.run_environmentNow scope path.parent p)]
  rcases h : out with ⟨v, _ | e⟩ <;> simp only [out] at h <;> rw [h]
  · simp only [run_pure, Option.map_none, Option.toList_none, List.append_nil]
    rfl
  · rfl

variable (s : Surroundings) (fetch : String → String → TreePath → Scope → Walk Mapping)

/-! ### Nodes -/

/-- What a mapping holds before its own entries: its base and its instances. -/
def walkMade (entries : Mapping) (path : TreePath) (scope : Scope) : Walk Mapping := do
  onIndex (·.openMap path)
  let base ← walkBase s fetch entries path scope
  onIndex (·.overlayAt path base)
  walkLoop s fetch entries path scope base

variable {s fetch}

theorem walk_map_eq (entries : List (String × Value)) (path : TreePath) (scope : Scope) :
    walk s fetch (.map entries) path scope = match Directive.conflict? entries with
      | some (key, previous) => fail path (.directive key (.conflict previous))
      | none => do
        let made ← walkMade s fetch entries path scope
        let own ← walkOwn s fetch entries path scope made
        let result ← walkUpdates s fetch entries path scope own
        return .map result := by
  rw [walk]
  cases Directive.conflict? entries with
  | none => simp only [walkMade, bind_assoc]
  | some conflict => rfl

theorem walk_list_eq (items : List Value) (path : TreePath) (scope : Scope) :
    walk s fetch (.list items) path scope = do
      onIndex (·.put path (.list []))
      let values ← walkItems s fetch items path scope 0
      return .list values := by
  rw [walk]

theorem walk_str_eq (source : String) (path : TreePath) (scope : Scope) :
    walk s fetch (.str source) path scope = s.walkText source path scope := by
  rw [walk]

/-- All else stands for itself. -/
theorem walk_eq_pure {v : Value} (hm : v.isMap = false) (hl : v.list? = none)
    (hs : v.str? = none) (path : TreePath) (scope : Scope) :
    walk s fetch v path scope = pure v := by
  cases v <;> first | rfl | contradiction

theorem walkInstances_of_not_isMap {v : Value} (h : v.isMap = false) (path : TreePath)
    (scope : Scope) :
    walkInstances s fetch v path scope = fail path (.malformedLoop .notMapping) := by
  cases v <;> first | rfl | contradiction

theorem walkTargets_of_not_isMap {v : Value} (h : v.isMap = false) (directive : String)
    (path : TreePath) (scope : Scope) (result : Mapping) :
    walkTargets s fetch v directive path scope result
      = fail path (.directive directive (.updates v.kind)) := by
  cases v <;> first | rfl | contradiction

/-! ### Parts of nodes -/

theorem walkOwn_append (front after : List (String × Value)) (path : TreePath) (scope : Scope)
    (result : Mapping) :
    walkOwn s fetch (front ++ after) path scope result
      = walkOwn s fetch front path scope result >>= walkOwn s fetch after path scope := by
  induction front generalizing result with
  | nil => rw [walkOwn_nil, List.nil_append, pure_bind]
  | cons e front ih =>
    obtain ⟨key, v⟩ := e
    rw [List.cons_append, walkOwn, walkOwn]
    split
    · exact ih result
    · simp only [ih, bind_assoc]

theorem walkItems_append (front after : List Value) (path : TreePath) (scope : Scope) (i : Nat) :
    walkItems s fetch (front ++ after) path scope i = do
      let values ← walkItems s fetch front path scope i
      let others ← walkItems s fetch after path scope (i + front.length)
      return values ++ others := by
  induction front generalizing i with
  | nil =>
    simp only [walkItems_nil, List.nil_append, pure_bind, List.length_nil, Nat.add_zero, bind_pure]
  | cons v front ih =>
    have hi : i + (v :: front).length = i + 1 + front.length := by
      rw [List.length_cons]
      omega
    rw [List.cons_append, walkItems, walkItems, hi]
    simp only [ih, bind_assoc, pure_bind, List.cons_append]

theorem walkTargetEntries_append (front after : List (String × Value)) (path : TreePath)
    (scope : Scope) (result : Mapping) :
    walkTargetEntries s fetch (front ++ after) path scope result
      = walkTargetEntries s fetch front path scope result
        >>= walkTargetEntries s fetch after path scope := by
  induction front generalizing result with
  | nil => rw [walkTargetEntries_nil, List.nil_append, pure_bind]
  | cons e front ih =>
    obtain ⟨target, v⟩ := e
    rw [List.cons_append, walkTargetEntries, walkTargetEntries]
    simp only [ih, bind_assoc]

theorem Surroundings.instances_append {template : TreePath → Scope → Walk Value}
    {key : Option String} {path : TreePath} {scope : Scope} (front after : List Value) (i : Nat)
    (made : Mapping) :
    s.instances template key path scope (front ++ after) i made
      = s.instances template key path scope front i made
        >>= s.instances template key path scope after (i + front.length) := by
  induction front generalizing i made with
  | nil =>
    simp only [instances, List.nil_append, pure_bind, List.length_nil, Nat.add_zero]
  | cons item front ih =>
    have hi : i + (item :: front).length = i + 1 + front.length := by
      rw [List.length_cons]
      omega
    rw [List.cons_append, instances, instances, hi]
    simp only [ih, bind_assoc]
    congr 1
    funext k
    split
    · rfl
    · simp only [bind_assoc]

theorem walkEntry_eq (entries : Mapping) (key : String) (path : TreePath) (scope : Scope) :
    walkEntry s fetch entries key path scope = match entries.get? key with
      | some v => walk s fetch v path scope
      | none => pure .null := by
  induction entries with
  | nil => rfl
  | cons e entries ih =>
    obtain ⟨k, v⟩ := e
    rw [walkEntry, Entries.get?_cons]
    split
    · rfl
    · exact ih

/-- No key is that of an update. -/
def Mapping.NoUpdate (entries : Mapping) : Prop :=
  ∀ key ∈ Entries.keys entries, Directive.ofKey? key ≠ some .update

instance (entries : Mapping) : Decidable (Mapping.NoUpdate entries) :=
  inferInstanceAs (Decidable (∀ key ∈ Entries.keys entries, Directive.ofKey? key ≠ some .update))

theorem Mapping.NoUpdate.walkUpdates_eq {entries : List (String × Value)}
    (h : Mapping.NoUpdate entries) (path : TreePath) (scope : Scope) (result : Mapping) :
    walkUpdates s fetch entries path scope result = pure result := by
  induction entries with
  | nil => rw [walkUpdates_nil]
  | cons e entries ih =>
    obtain ⟨key, v⟩ := e
    rw [walkUpdates, if_neg (h key List.mem_cons_self)]
    exact ih fun k hk => h k (List.mem_cons_of_mem key hk)

/-- A walk of a mapping without updates that goes well, with its parts. -/
theorem run_walk_map_eq_ok {entries : List (String × Value)} (hn : Mapping.NoUpdate entries)
    {path : TreePath} {scope : Scope} {p q : Progress} {w : Value}
    (h : (walk s fetch (.map entries) path scope).run p = (.ok w, q)) :
    ∃ made p₁ own, (walkMade s fetch entries path scope).run p = (.ok made, p₁)
      ∧ (walkOwn s fetch entries path scope made).run p₁ = (.ok own, q) ∧ w = .map own := by
  rw [walk_map_eq] at h
  split at h
  · simp at h
  · rw [run_bind_eq_ok_iff] at h
    obtain ⟨made, p₁, hmade, h⟩ := h
    rw [run_bind_eq_ok_iff] at h
    obtain ⟨own, p₂, hown, h⟩ := h
    rw [hn.walkUpdates_eq, pure_bind] at h
    obtain ⟨hw, rfl⟩ := run_pure_eq_ok_iff.mp h
    exact ⟨made, p₁, own, hmade, hown, hw.symm⟩

/-- A walk of a list that goes well, with its parts. -/
theorem run_walk_list_eq_ok {items : List Value} {path : TreePath} {scope : Scope}
    {p q : Progress} {w : Value}
    (h : (walk s fetch (.list items) path scope).run p = (.ok w, q)) :
    ∃ values, (walkItems s fetch items path scope 0).run
        (p.withIndex (p.index.put path (.list []))) = (.ok values, q) ∧ w = .list values := by
  rw [walk_list_eq, run_onIndex_bind, run_bind_eq_ok_iff] at h
  obtain ⟨values, p₁, hvalues, h⟩ := h
  obtain ⟨hw, rfl⟩ := run_pure_eq_ok_iff.mp h
  exact ⟨values, hvalues, hw.symm⟩

end ConfigTree
