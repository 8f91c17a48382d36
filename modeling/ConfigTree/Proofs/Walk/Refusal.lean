import ConfigTree.Proofs.Document.Loop
import ConfigTree.Proofs.Walk.Alike

/-!
# Loops that are refused

The expressions for the values of a loop and for the numbers of its generator are evaluated before
anything else.  So a loop with a defect ends the walk of its mapping before its template, the own
entries and the updates are walked: nothing is logged, and no document is asked for.

What counts as a defect of a loop is told by `Loop.Defect`.

## Main results

* `run_walkInstances_of_refusal` — a loop that is refused ends the walk.
* `walk_ok_of_keyless` — a loop without a key is not refused.
* `walk_refusesLoop` — the walk of a mapping refuses its loop before anything else.
-/

namespace ConfigTree

open Walk

variable {fault : DocumentFault}

section Walks

variable {s : Surroundings} {fetch : String → String → TreePath → Scope → Walk Mapping}
  {path : TreePath} {scope : Scope} {p q : Progress} {v : Value} {entries : Mapping} {key : String}

/-! ### The loop -/

/-- Values that are refused end the walk with the expressions for them. -/
theorem run_loopValues_of_refusal {values : LoopValues} (sequence : TreePath → Scope → Walk Value)
    (h : Loop.valuesRefusal? s.machine (s.environmentAt p.texts p.index scope path).evaluate values
      = some fault) :
    (s.loopValues sequence values path scope).run p = (.error ⟨path, fault⟩, p.evaluating) := by
  cases values with
  | sequence items => cases h
  | generator g =>
    simp only [Loop.valuesRefusal?] at h
    split at h
    · next cause hrun =>
      -- the generator is run on no more than its parameters, and nothing is walked
      obtain rfl := Option.some.inj h
      rw [Surroundings.loopValues, run_bind_of_ok (s.run_environmentNow scope path p)]
      simp only [hrun, run_fail]
    · cases h
  | expression source =>
    simp only [Loop.valuesRefusal?] at h
    rw [Surroundings.loopValues, run_bind_of_ok (s.run_environmentNow scope path p)]
    split at h
    · next e he =>
      obtain rfl := Option.some.inj h
      simp only [he, run_fail]
    · cases h
    · next v hlist hv =>
      obtain rfl := Option.some.inj h
      rw [hv]
      cases v with
      | list items => exact absurd rfl (hlist items)
      | _ => rfl

/-- **A loop that is refused ends the walk**, before its values and its template are walked. -/
theorem run_walkInstances_of_refusal
    (h : Loop.refusal? s.machine (s.environmentAt p.texts p.index scope path).evaluate v
      = some fault) :
    ∃ q : Progress, q.index = p.index ∧ q.log = p.log ∧ q.requests = p.requests
      ∧ ∀ fetch, (walkInstances s fetch v path scope).run p = (.error ⟨path, fault⟩, q) := by
  unfold Loop.refusal? at h
  split at h
  · next cause hcause =>
    -- nothing has been evaluated
    obtain rfl := Option.some.inj h
    refine ⟨p, rfl, rfl, rfl, fun fetch => ?_⟩
    cases v with
    | map fields => rw [walkInstances, hcause, run_fail]
    | _ =>
      obtain rfl := Except.error.inj hcause
      rfl
  · next loop hloop =>
    obtain ⟨fields, rfl⟩ := Loop.exists_map_of_ofValue hloop
    refine ⟨p.evaluating, rfl, rfl, rfl, fun fetch => ?_⟩
    rw [walkInstances, hloop]
    exact run_bind_of_error (run_loopValues_of_refusal _ h)

/-! ### The mapping around it -/

/-- A mapping without a base starts from nothing. -/
theorem walkBase_eq_pure (h : Purpose.base ∉ Directive.purposes entries) (path : TreePath)
    (scope : Scope) : walkBase s fetch entries path scope = pure [] := by
  induction entries with
  | nil => rw [walkBase_nil]
  | cons e entries ih =>
    obtain ⟨key, v⟩ := e
    rw [walkBase]
    cases hd : Directive.ofKey? key with
    | none =>
      rw [Directive.purposes_cons_of_none hd] at h
      exact ih h
    | some d =>
      rw [Directive.purposes_cons_of_some hd, List.mem_cons, not_or] at h
      obtain ⟨hd, hrest⟩ := h
      cases d with
      | extend => exact absurd rfl hd
      | fetch => exact absurd rfl hd
      | update => exact ih hrest
      | loop => exact ih hrest

/-- Without a conflict, an entry with a directive is the first one with it. -/
theorem Directive.entry?_of_mem {d : Directive} (hu : (Directive.purposes entries).Nodup)
    (hmem : (key, v) ∈ entries) (hkey : Directive.ofKey? key = some d) :
    d.entry? entries = some (key, v) := by
  induction entries with
  | nil => cases hmem
  | cons e entries ih =>
    obtain ⟨key', v'⟩ := e
    rw [Directive.entry?, List.find?_cons]
    rcases List.mem_cons.mp hmem with heq | hmem
    · obtain ⟨rfl, rfl⟩ := Prod.mk.inj heq
      simp only [hkey, decide_true]
    · have hin : d.purpose ∈ Directive.purposes entries :=
        List.mem_filterMap.mpr ⟨(key, v), hmem, by simp [Directive.purpose?, hkey]⟩
      cases hd : Directive.ofKey? key' with
      | none =>
        rw [Directive.purposes_cons_of_none hd] at hu
        simpa [Directive.entry?] using ih hu hmem
      | some d' =>
        rw [Directive.purposes_cons_of_some hd, List.nodup_cons] at hu
        -- the same directive again would serve the same purpose
        have hne : d' ≠ d := by
          rintro rfl
          exact hu.1 hin
        simpa [Directive.entry?, hne] using ih hu.2 hmem

/-- A mapping without a base ends with its loop, if that ends the walk. -/
theorem run_walk_of_walkInstances_error {e : DocumentError}
    (hu : (Directive.purposes entries).Nodup) (hbase : Purpose.base ∉ Directive.purposes entries)
    (hmem : (key, v) ∈ entries) (hkey : Directive.ofKey? key = some .loop)
    (h : (walkInstances s fetch v path scope).run (p.withIndex (p.index.openMap path))
      = (.error e, q)) :
    (walk s fetch (.map entries) path scope).run p = (.error e, q) := by
  rw [walk_map_eq, (Directive.conflict?_eq_none_iff entries).mpr hu]
  refine run_bind_of_error ?_
  -- up to the loop, nothing but the index changes
  rw [walkMade, run_onIndex_bind, walkBase_eq_pure hbase, pure_bind, run_onIndex_bind,
    Progress.index_withIndex, Progress.withIndex_withIndex, Value.overlayAt_openMap, walkLoop_eq,
    walkGenerated, Directive.entry?_of_mem hu hmem hkey]
  exact run_bind_of_error (run_bind_of_error h)

/-! ### All of it -/

/-- A loop without a key is not refused: its instances go by their positions. -/
theorem walk_ok_of_keyless :
    let fields : Mapping := [("values", .list [.bool true]), ("template", .map [("a", .null)])]
    let entries : Mapping := [("foreach", .map fields)]
    let s : Surroundings := ⟨.standard Range.halting, .standard, .keyless "fernet", Range.halting⟩
    let fetch := fun _ _ _ _ => pure []
    Directive.conflict? entries = none ∧ Purpose.base ∉ Directive.purposes entries
      ∧ Entries.get? fields "key" = none
      ∧ ((walk s fetch (.map entries) [] []).run (.start none [])).1
        = .ok (.map [("0", .map [("a", .null)])]) := by
  refine ⟨by decide, by decide, by decide, ?_⟩
  cbv

/-- **A loop with a defect is refused before anything beside it is walked.**  Its mapping, which
has no base and no conflicting directives, then has a fault that names a defect of the loop: the
loop is malformed, its generator is unknown or a parameter is missing.  The fault is reported at
the place of the mapping.  Nothing is logged, no document is asked for, and the index is as it was
but for the mapping, which is there.  This is so whatever stands beside the loop, and the outcome
is the same. -/
theorem walk_refusesLoop (s : Surroundings) (v : Value) (path : TreePath) (scope : Scope)
    (p : Progress) :
    let evaluate := (s.environmentAt p.texts (p.index.openMap path) scope path).evaluate
    (∃ fault, Loop.Defect s.machine evaluate v fault) →
    ∃ fault q, Loop.Defect s.machine evaluate v fault
      ∧ ((∃ cause, fault = .malformedLoop cause) ∨ (∃ kind, fault = .unknownGenerator kind)
        ∨ ∃ generator parameter, fault = .missingParameter generator parameter)
      ∧ q.index = p.index.openMap path ∧ q.log = p.log ∧ q.requests = p.requests
      ∧ ∀ fetch entries key, Directive.conflict? entries = none →
        Purpose.base ∉ Directive.purposes entries → (key, v) ∈ entries →
        Directive.ofKey? key = some .loop →
        (walk s fetch (.map entries) path scope).run p = (.error ⟨path, fault⟩, q) := by
  intro evaluate hdefect
  obtain ⟨fault, hdefect⟩ := hdefect
  -- the program may report another defect than the given one
  cases hrefusal : Loop.refusal? s.machine evaluate v with
  | none => exact absurd hdefect (Loop.not_defect_of_refusal?_eq_none hrefusal)
  | some reported =>
    have hreported : Loop.Defect s.machine evaluate v reported := Loop.defect_of_refusal? hrefusal
    obtain ⟨q, hindex, hlog, hrequests, hrun⟩ :=
      run_walkInstances_of_refusal (p := p.withIndex (p.index.openMap path)) hrefusal
    refine ⟨reported, q, hreported, hreported.fault_eq, hindex, hlog, hrequests, ?_⟩
    intro fetch entries key hconflict hbase hmem hkey
    exact run_walk_of_walkInstances_error ((Directive.conflict?_eq_none_iff entries).mp hconflict)
      hbase hmem hkey (hrun fetch)

/-- A generator without its count, beside an entry that would be logged and an update that would
end the walk. -/
theorem walk_refusesLoop_of_countless :
    let parameters : Mapping := [("kind", .str "linspace"), ("start", .int 0), ("stop", .int 1)]
    let v : Value := .map [("values", .map parameters), ("template", .map [])]
    let entries : Mapping := [("y", .str "nope"), ("foreach", v), ("update", .null)]
    let s : Surroundings := ⟨.empty, .empty, .keyless "fernet", Range.halting⟩
    let fetch := fun _ _ _ _ => pure []
    ∃ fault q, (walk s fetch (.map entries) [.key "x"] []).run (.start none [])
        = (.error ⟨[.key "x"], fault⟩, q)
      ∧ q.log = [] ∧ q.requests = [] := by
  intro parameters v entries s fetch
  have hof : Generator.IsOf parameters .linspace := ⟨"linspace", rfl, rfl⟩
  have hnone : ∀ name ∈ ["count", "num"], parameters.get? name = none := by decide
  obtain ⟨fault, q, -, -, -, hlog, hrequests, hrun⟩ :=
    walk_refusesLoop s v [.key "x"] [] (.start none [])
      ⟨_, .generator (by rfl) (.missing hof (by decide) hnone)⟩
  have hmem : ("foreach", v) ∈ entries := List.mem_cons_of_mem _ List.mem_cons_self
  exact ⟨fault, q, hrun fetch entries "foreach" (by decide) (by decide) hmem (by decide), hlog,
    hrequests⟩

end Walks

end ConfigTree
