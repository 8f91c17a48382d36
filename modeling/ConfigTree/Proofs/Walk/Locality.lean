import ConfigTree.Proofs.Tree.Place
import ConfigTree.Proofs.Walk.Closure

/-!
# Walks are local

Whatever is done in the walk of a node, the index changes at the place of the node or
below it, and every text in the node sees an index that differs from the one at the
start there at most.  This holds for all documents and directives, and for walks that
go wrong as well.

## Main definitions

* `Progress.Leads path p q` — the second progress comes from the first by steps at a
  place.
* `Walk.LocalAt path act` — what `act` does is done at a place.

## Main results

* `Walk.localAt_walk`, `Walk.leads_of_run_walk` — the walk of a node is local.
-/

namespace ConfigTree

/-! ### Progress at a place -/

/-- The second progress comes from the first by steps at a place. -/
structure Progress.Leads (path : TreePath) (p q : Progress) : Prop where
  /-- The index changes at the place at most. -/
  index : Value.Within path p.index q.index
  /-- Texts are evaluated, in the order of their numbers. -/
  texts : p.texts ≤ q.texts
  /-- What was seen is still known. -/
  seen_of_seen {n : Nat} {tree : Value} : p.seen n tree → q.seen n tree
  /-- What is seen meanwhile differs from the index at the place at most. -/
  seen_cases {n : Nat} {tree : Value} : q.seen n tree →
    p.seen n tree ∨ p.texts ≤ n ∧ n < q.texts ∧ Value.Within path p.index tree

namespace Progress.Leads

variable {path : TreePath} {p q r : Progress}

theorem refl (path : TreePath) (p : Progress) : Leads path p p where
  index := Value.Within.refl path _
  texts := Nat.le_refl _
  seen_of_seen h := h
  seen_cases h := Or.inl h

theorem trans (hpq : Leads path p q) (hqr : Leads path q r) : Leads path p r where
  index := hpq.index.trans hqr.index
  texts := Nat.le_trans hpq.texts hqr.texts
  seen_of_seen h := hqr.seen_of_seen (hpq.seen_of_seen h)
  seen_cases h := by
    -- what `r` knows was seen before `p`, between `p` and `q`, or after `q`
    rcases hqr.seen_cases h with h | ⟨hle, hlt, hin⟩
    · rcases hpq.seen_cases h with h | ⟨hle, hlt, hin⟩
      · exact Or.inl h
      · exact Or.inr ⟨hle, Nat.lt_of_lt_of_le hlt hqr.texts, hin⟩
    · exact Or.inr ⟨Nat.le_trans hpq.texts hle, hlt, hpq.index.trans hin⟩

theorem widen {rest : TreePath} (h : Leads (path ++ rest) p q) : Leads path p q where
  index := h.index.widen
  texts := h.texts
  seen_of_seen := h.seen_of_seen
  seen_cases hn := by
    rcases h.seen_cases hn with hn | ⟨hle, hlt, hin⟩
    · exact Or.inl hn
    · exact Or.inr ⟨hle, hlt, hin.widen⟩

/-- What is done at some place is done at the root or below. -/
theorem atRoot (h : Leads path p q) : Leads [] p q := widen h

/-- A step that does nothing but change the index. -/
theorem withIndex {t : Value} (h : Value.Within path p.index t) : Leads path p (p.withIndex t) where
  index := h
  texts := Nat.le_refl _
  seen_of_seen hn := hn
  seen_cases hn := Or.inl hn

theorem put (path rest : TreePath) (p : Progress) (v : Value) :
    Leads path p (p.withIndex (p.index.put (path ++ rest) v)) := withIndex (.put path rest _ v)

/-- One text more is evaluated. -/
theorem evaluating (path : TreePath) (p : Progress) : Leads path p p.evaluating where
  index := Value.Within.refl path _
  texts := Nat.le_succ _
  seen_of_seen hn := Or.inl hn
  seen_cases hn := by
    rcases hn with hn | ⟨rfl, rfl⟩
    · exact Or.inl hn
    · exact Or.inr ⟨Nat.le_refl _, Nat.lt_succ_self _, Value.Within.refl path _⟩

end Progress.Leads

/-! ### Steps at a place -/

/-- What a step does is done at a place. -/
def Walk.LocalAt (path : TreePath) {α : Type} (act : Walk α) : Prop :=
  ∀ p, Progress.Leads path p (act.run p).2

namespace Walk

variable {α β : Type} {path : TreePath} {act : Walk α}

theorem LocalAt.bind {f : α → Walk β} (ha : act.LocalAt path) (hf : ∀ a, (f a).LocalAt path) :
    (act >>= f).LocalAt path := by
  intro p
  have hp := ha p
  rcases h : act.run p with ⟨e | a, q⟩ <;> rw [h] at hp
  -- the first step fails, and the second is not made
  · rw [run_bind_of_error h]
    exact hp
  · rw [run_bind_of_ok h]
    -- the second step starts where the first one led
    exact hp.trans (hf a q)

/-- Nothing of what is done in another document is seen from outside, except that texts are
numbered on. -/
theorem LocalAt.inside (ha : act.LocalAt []) (file : Option String) (path : TreePath) :
    (inside file act).LocalAt path := by
  intro p
  rw [run_inside]
  exact {
    index := Value.Within.refl path _
    texts := (ha (p.enter file)).texts
    seen_of_seen := fun hn => hn
    seen_cases := fun hn => Or.inl hn }

theorem closed_localAt (s : Surroundings) : Closed s fun path => LocalAt path where
  pure path _ := fun p => .refl path p
  bind ha hf := ha.bind hf
  fail path _ _ := fun p => .refl path p
  evaluate path _ _ := fun p => .evaluating path p
  kept path _ _ := fun _ => ⟨.refl path _, Nat.le_refl _, id, Or.inl⟩
  put path rest v := fun p => .put path rest p v
  openMap path := fun _ => .withIndex (.openMap path _)
  overlayAt path entries := fun _ => .withIndex (.overlayAt path _ entries)
  forget path key := fun _ => .withIndex (.forget path _ key)
  below ha := fun p => (ha p).widen
  ask path _ := fun _ => ⟨.refl path _, Nat.le_refl _, id, Or.inl⟩
  inside ha := ha.inside _ _

variable {library : Library} {s : Surroundings} {budget : Nat}

/-- **The walk of a node is local**, whether it goes well or not. -/
theorem localAt_walk (library : Library) (s : Surroundings) (budget : Nat) (v : Value)
    (path : TreePath) (scope : Scope) :
    (walk s (fetchBase library s budget) v path scope).LocalAt path :=
  (closed_localAt s).of_walk ((closed_localAt s).of_fetchBase library budget) v path scope

variable {entries : List (String × Value)} {items values : List Value} {path : TreePath}
  {scope : Scope} {p q : Progress}

theorem leads_of_run_walk {v : Value} {outcome : Except DocumentError Value}
    (h : (walk s (fetchBase library s budget) v path scope).run p = (outcome, q)) :
    Progress.Leads path p q := by
  have hp := localAt_walk library s budget v path scope p
  rwa [h] at hp

theorem leads_of_run_walkMade {outcome : Except DocumentError Mapping}
    (h : (walkMade s (fetchBase library s budget) entries path scope).run p = (outcome, q)) :
    Progress.Leads path p q := by
  have hfetch := (closed_localAt s).of_fetchBase library budget
  have hp := (closed_localAt s).of_walkMade hfetch entries path scope p
  rwa [h] at hp

theorem leads_of_run_walkOwn {result : Mapping} {outcome : Except DocumentError Mapping}
    (h : (walkOwn s (fetchBase library s budget) entries path scope result).run p = (outcome, q)) :
    Progress.Leads path p q := by
  have hfetch := (closed_localAt s).of_fetchBase library budget
  have hp := (closed_localAt s).of_walkOwn hfetch entries path scope result p
  rwa [h] at hp

theorem leads_of_run_walkItems {i : Nat} {outcome : Except DocumentError (List Value)}
    (h : (walkItems s (fetchBase library s budget) items path scope i).run p = (outcome, q)) :
    Progress.Leads path p q := by
  have hfetch := (closed_localAt s).of_fetchBase library budget
  have hp := (closed_localAt s).of_walkItems hfetch items path scope i p
  rwa [h] at hp

end Walk

/-! ### Numbers -/

/-- Every text that is known to have been evaluated has got its number already. -/
def Progress.Numbered (p : Progress) : Prop := ∀ n tree, p.seen n tree → n < p.texts

theorem Progress.Leads.numbered {path : TreePath} {p q : Progress} (h : Leads path p q)
    (hp : p.Numbered) : q.Numbered := by
  intro n tree hn
  rcases h.seen_cases hn with hold | ⟨-, hlt, -⟩
  · exact Nat.lt_of_lt_of_le (hp n tree hold) h.texts
  · exact hlt

end ConfigTree
