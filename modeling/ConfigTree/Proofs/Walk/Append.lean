import ConfigTree.Proofs.Walk.Coherence
import ConfigTree.Proofs.Walk.Import
import ConfigTree.Proofs.Walk.Layers
import ConfigTree.Proofs.Walk.Plain

/-!
# Entries at the end of a mapping

Own entries that stand at the end of a mapping are walked when all else of it is done.
So the walk of a mapping with more entries at the end is the walk of the mapping and then
that of the entries, and nothing that stands before them depends on them: neither its
value, nor what is logged of it, nor whether the walk gets past it.

## Main results

* `walk_map_append` — a mapping with more own entries at the end.
* `Walk.Appends.prefix_log` — a walk adds to the log.
* `walkRoot_append` — a document with more own entries at the end.
-/

namespace ConfigTree

open Walk

/-! ### The walk of a mapping with more entries -/

section Map

variable {s : Surroundings} {fetch : String → String → TreePath → Scope → Walk Mapping}
  {more : List (String × Value)}

theorem Mapping.NoDirective.conflictAfter_eq_none (hm : NoDirective more)
    (served : List (Purpose × String)) : Directive.conflictAfter served more = none := by
  induction more with
  | nil => rfl
  | cons e more ih =>
    obtain ⟨key, v⟩ := e
    rw [Directive.conflictAfter, hm.ofKey?_head]
    exact ih hm.tail

theorem Directive.conflictAfter_append (hm : Mapping.NoDirective more)
    (served : List (Purpose × String)) (entries : List (String × Value)) :
    conflictAfter served (entries ++ more) = conflictAfter served entries := by
  induction entries generalizing served with
  | nil => exact hm.conflictAfter_eq_none served
  | cons e entries ih =>
    obtain ⟨key, v⟩ := e
    simp only [List.cons_append, conflictAfter, ih]

theorem walkBase_append (hm : Mapping.NoDirective more) (entries : List (String × Value))
    (path : TreePath) (scope : Scope) :
    walkBase s fetch (entries ++ more) path scope = walkBase s fetch entries path scope := by
  induction entries with
  | nil => rw [List.nil_append, hm.walkBase_eq, walkBase_nil]
  | cons e entries ih =>
    obtain ⟨key, v⟩ := e
    rw [List.cons_append, walkBase, walkBase]
    split
    · rfl
    · rfl
    · exact ih

theorem walkLoop_append (hm : Mapping.NoDirective more) (entries : List (String × Value))
    (path : TreePath) (scope : Scope) (base : Mapping) :
    walkLoop s fetch (entries ++ more) path scope base
      = walkLoop s fetch entries path scope base := by
  induction entries with
  | nil => rw [List.nil_append, hm.walkLoop_eq, walkLoop_nil]
  | cons e entries ih =>
    obtain ⟨key, v⟩ := e
    rw [List.cons_append, walkLoop, walkLoop, ih]

/-- **A mapping with more own entries at the end**: it is walked without them, and then they
are. -/
theorem walk_map_append {entries : List (String × Value)} (hn : Mapping.NoUpdate entries)
    (hm : Mapping.NoDirective more) (path : TreePath) (scope : Scope) :
    walk s fetch (.map (entries ++ more)) path scope = do
      let v ← walk s fetch (.map entries) path scope
      let own ← walkOwn s fetch more path scope (v.map?.getD [])
      return .map own := by
  have hnoUpdate : Mapping.NoUpdate (entries ++ more) := by
    intro key hkey
    rw [Entries.keys, List.map_append, List.mem_append] at hkey
    exact hkey.elim (hn key) (hm.noUpdate key)
  have hconflict : Directive.conflict? (entries ++ more) = Directive.conflict? entries :=
    Directive.conflictAfter_append hm [] entries
  have hmade : walkMade s fetch (entries ++ more) path scope
      = walkMade s fetch entries path scope := by
    simp only [walkMade, walkBase_append hm, walkLoop_append hm]
  rw [walk_map_eq, walk_map_eq, hconflict]
  cases Directive.conflict? entries with
  | some conflict => rfl
  | none =>
    -- without updates nothing comes after the own entries, so the new ones may be taken last
    simp only [hmade, walkOwn_append, hnoUpdate.walkUpdates_eq, hn.walkUpdates_eq, bind_assoc,
      pure_bind, Value.map?_map, Option.getD_some]

end Map

theorem Mapping.NoDirective.ownEntries_eq {more : Mapping} (hm : NoDirective more) :
    ownEntries more = more := by
  unfold ownEntries
  rw [List.filter_eq_self]
  rintro ⟨key, v⟩ he
  rw [hm key (List.mem_map_of_mem he)]
  rfl

/-- The keys of a mapping with its own entries: those it had, and behind them the new ones. -/
theorem keys_of_run_walkOwn {s : Surroundings}
    {fetch : String → String → TreePath → Scope → Walk Mapping} {entries result own : Mapping}
    {path : TreePath} {scope : Scope} {p q : Progress}
    (h : (walkOwn s fetch entries path scope result).run p = (.ok own, q)) :
    own.keys = Mapping.behind result.keys (ownEntries entries).keys := by
  rw [walkOwn_eq, run_bind_eq_ok_iff] at h
  obtain ⟨values, p₁, hvalues, h⟩ := h
  obtain ⟨rfl, -⟩ := run_pure_eq_ok_iff.mp h
  rw [Mapping.keys_foldl_lay, (eachWalked_of_run_walkEach hvalues).keys_eq]

/-! ### What is logged -/

/-- A walk adds to the log. -/
theorem Walk.Appends.prefix_log {α : Type} {act : Walk α} (h : act.Appends) (p : Progress) :
    p.log <+: (act.run p).2.log := by
  have hrun := h { p with log := [], requests := [] } p.log p.requests
  have hp : Progress.after { p with log := [], requests := [] } p.log p.requests = p := by
    simp only [Progress.after, List.append_nil]
  rw [hp] at hrun
  rw [hrun]
  exact List.prefix_append _ _

/-! ### Documents with more entries -/

variable (library : Library) (s : Surroundings) (budget : Nat)

/-- **What stands at the end of a document has no part in what stands before it.**  Take a document
that is a mapping without updates, and the same with more own entries at the end.  If the one cannot
be resolved, neither can the other, and all is the same: the failure, the log, and what else is done
until then.  If the longer one can be resolved, so can the shorter one; then both have the same
under every key but those of the additional entries, and the keys of the shorter one come first,
in their order.  In any case the log of the shorter one is the beginning of the other. -/
theorem walkRoot_append {entries more : Mapping} (hn : Mapping.NoUpdate entries)
    (hm : Mapping.NoDirective more) (scope : Scope) (p : Progress) :
    let short := (walkRoot library s budget (.map entries) scope).run p
    let long := (walkRoot library s budget (.map (entries ++ more)) scope).run p
    (∀ e, short.1 = .error e → long = short)
      ∧ (∀ w, long.1 = .ok w → ∃ own own' : Mapping, short.1 = .ok (.map own) ∧ w = .map own'
        ∧ (∀ key, key ∉ more.keys → own'.get? key = own.get? key)
        ∧ own.keys <+: own'.keys ∧ ∀ key ∈ own'.keys, key ∈ own.keys ∨ key ∈ more.keys)
      ∧ short.2.log <+: long.2.log := by
  intro short long
  have hshort : short = _ := run_walkRoot library s budget (.map entries) scope p
  have hlong : long = _ := run_walkRoot library s budget (.map (entries ++ more)) scope p
  rw [walk_map_append hn hm] at hlong
  clear_value short long
  rcases h : (walk s (fetchBase library s budget) (.map entries) [] scope).run (p.withIndex .null)
    with ⟨e | v, q⟩
  · -- the longer one does not get past the entries of the shorter one
    rw [run_bind_of_error h] at hlong
    rw [h] at hshort
    have hsame : long = short := hlong.trans hshort.symm
    refine ⟨fun _ _ => hsame, fun w hw => ?_, hsame ▸ List.prefix_refl _⟩
    rw [hlong] at hw
    cases hw
  · obtain ⟨-, -, own, -, -, rfl⟩ := run_walk_map_eq_ok hn h
    rw [h] at hshort
    rw [run_bind_of_ok h, Value.map?_map, Option.getD_some] at hlong
    have hlog := Appends.prefix_log ((closed_appends s).of_walkOwn
      ((closed_appends s).of_fetchBase library budget) more [] scope own) q
    have hne : ∀ e, short.1 = .error e → long = short := by
      intro e he
      rw [hshort] at he
      cases he
    refine ⟨hne, ?_⟩
    subst hshort
    -- the shorter one is resolved; the longer one has the new entries still to go
    rcases hown : (walkOwn s (fetchBase library s budget) more [] scope own).run q with
      ⟨e | own', r⟩ <;> rw [hown] at hlog
    -- one of the new entries fails: then nothing is asked of the values
    · rw [run_bind_of_error hown] at hlong
      subst hlong
      exact ⟨nofun, hlog⟩
    · rw [run_bind_of_ok hown, run_pure] at hlong
      subst hlong
      refine ⟨fun w hw => ?_, hlog⟩
      obtain rfl : Value.map own' = w := Except.ok.inj hw
      -- all go well: they are laid over what the shorter one has
      have hkeys := keys_of_run_walkOwn hown
      rw [hm.ownEntries_eq] at hkeys
      refine ⟨own, own', rfl, rfl, fun key hkey => get?_of_run_walkOwn hkey hown, ?_, ?_⟩
      · rw [hkeys]
        exact Mapping.prefix_behind _ _
      · intro key hkey
        rwa [hkeys, Mapping.mem_behind] at hkey

/-- An entry at the end sees what stands before it, and one that lays over an entry of the base
changes nothing that was seen of it before. -/
theorem walkRoot_append_of_root :
    let entries : Mapping := [("extends", .map [("a", .null), ("y", .null)]), ("b", .str "R")]
    let more : Mapping := [("a", .bool true), ("z", .str "R")]
    let s : Surroundings := ⟨.standard Range.halting, .standard, .keyless "fernet", Range.halting⟩
    let seen : Value := .map [("a", .null), ("y", .null)]
    let own' : Mapping := [("a", .bool true), ("y", .null), ("b", seen),
      ("z", .map [("a", .bool true), ("y", .null), ("b", seen)])]
    Mapping.NoUpdate entries ∧ Mapping.NoDirective more
      ∧ ((walkRoot .empty s 0 (.map (entries ++ more)) []).run (.start none [])).1 = .ok (.map own')
      ∧ ∃ own : Mapping,
        ((walkRoot .empty s 0 (.map entries) []).run (.start none [])).1 = .ok (.map own)
          ∧ own.get? "b" = some seen ∧ own.keys <+: ["a", "y", "b", "z"] := by
  intro entries more s seen own'
  have hn : Mapping.NoUpdate entries := by decide
  have hm : Mapping.NoDirective more := by decide
  have hlong : ((walkRoot .empty s 0 (.map (entries ++ more)) []).run (.start none [])).1
      = .ok (.map own') := rfl
  obtain ⟨-, hok, -⟩ := walkRoot_append .empty s 0 hn hm [] (.start none [])
  obtain ⟨own, _, hshort, heq, hget, hprefix, -⟩ := hok _ hlong
  obtain rfl := Value.map.inj heq
  refine ⟨hn, hm, hlong, own, hshort, ?_, hprefix⟩
  rw [← hget "b" (by decide)]
  rfl

end ConfigTree
