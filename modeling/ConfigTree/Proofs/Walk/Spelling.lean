import ConfigTree.Proofs.Walk.Alike
import ConfigTree.Proofs.Walk.Import
import Mathlib

/-!
# Where directives stand, and how they are spelt

What a directive does depends neither on where it stands among the entries of its mapping
nor on which of its two spellings is used.  Two documents that differ in nothing else are
resolved alike: both to the same tree, or both not, with the same logged on the way.  If
they fail, then at the same place and with the same fault, except that the messages quote
each directive as it is spelt.

The difference of two documents is taken apart into single changes, each at one place of
the document.  A change of place leaves the entries of each purpose in their order, as a
mapping has no two directives for one purpose.  Any other change turns entries into others
that are walked alike, and then the mappings are.

## Main definitions

* `Directive.serving purpose entries` — the entries that serve a purpose.
* `Respelling v v'` — one directive in `v` changes places with a neighbour or is spelt in
  another way.
* `Library.Respelled` — libraries whose documents differ in such changes.

## Main results

* `alike_walk_map_swap` — a directive and its neighbour can change places.
* `Respelling.alike_walk` — after one change, a node is walked alike.
* `walkRoot_respelled` — after any number of changes, a document is resolved alike.
-/

namespace ConfigTree

open Walk

/-! ### The order of entries -/

namespace Directive

/-- The entries that serve a purpose. -/
def serving (purpose : Purpose) (entries : Mapping) : Mapping :=
  entries.filter fun e => purpose? e.1 = some purpose

theorem purpose?_eq_loop_iff {key : String} :
    purpose? key = some .loop ↔ ofKey? key = some .loop := by
  rcases h : ofKey? key with _ | d
  · simp [purpose?, h]
  · cases d <;> simp [purpose?, h, purpose]

theorem purpose?_eq_update_iff {key : String} :
    purpose? key = some .update ↔ ofKey? key = some .update := by
  rcases h : ofKey? key with _ | d
  · simp [purpose?, h]
  · cases d <;> simp [purpose?, h, purpose]

theorem serving_cons (purpose : Purpose) (key : String) (v : Value) (entries : Mapping) :
    serving purpose ((key, v) :: entries) = if purpose? key = some purpose
      then (key, v) :: serving purpose entries else serving purpose entries := by
  simp [serving, List.filter_cons]

end Directive

section Nodes

variable {s : Surroundings} {fetch : String → String → TreePath → Scope → Walk Mapping}

/-- A mapping starts from what its first directive for that purpose says. -/
theorem walkBase_serving (entries : Mapping) (path : TreePath) (scope : Scope) :
    walkBase s fetch (Directive.serving .base entries) path scope
      = walkBase s fetch entries path scope := by
  induction entries with
  | nil => rfl
  | cons e entries ih =>
    obtain ⟨key, v⟩ := e
    rw [Directive.serving_cons, walkBase]
    rcases h : Directive.ofKey? key with _ | d
    · simpa [Directive.purpose?, h] using ih
    · cases d with
      | extend | fetch => simp [Directive.purpose?, h, Directive.purpose, walkBase]
      | update | loop => simpa [Directive.purpose?, h, Directive.purpose] using ih

theorem walkLoop_serving (entries : Mapping) (path : TreePath) (scope : Scope) (base : Mapping) :
    walkLoop s fetch (Directive.serving .loop entries) path scope base
      = walkLoop s fetch entries path scope base := by
  induction entries with
  | nil => rfl
  | cons e entries ih =>
    obtain ⟨key, v⟩ := e
    simp only [Directive.serving_cons, Directive.purpose?_eq_loop_iff, walkLoop]
    split
    · next h => rw [walkLoop, if_pos h]
    · exact ih

theorem walkUpdates_serving (entries : Mapping) (path : TreePath) (scope : Scope)
    (result : Mapping) :
    walkUpdates s fetch (Directive.serving .update entries) path scope result
      = walkUpdates s fetch entries path scope result := by
  induction entries with
  | nil => rfl
  | cons e entries ih =>
    obtain ⟨key, v⟩ := e
    simp only [Directive.serving_cons, Directive.purpose?_eq_update_iff, walkUpdates]
    split
    · next h => rw [walkUpdates, if_pos h]
    · exact ih

variable {front after : Mapping} {e f : String × Value}

/-- Two entries that do not both serve a purpose can change places. -/
theorem Directive.serving_swap {purpose : Purpose}
    (h : ¬ (purpose? e.1 = some purpose ∧ purpose? f.1 = some purpose)) :
    serving purpose (front ++ e :: f :: after) = serving purpose (front ++ f :: e :: after) := by
  simp only [serving, List.filter_append, List.filter_cons, decide_eq_true_eq]
  grind

theorem Directive.purposes_swap_perm :
    (purposes (front ++ e :: f :: after)).Perm (purposes (front ++ f :: e :: after)) :=
  ((List.Perm.swap f e after).append_left front).filterMap _

/-- Neighbours in a mapping without a conflict do not serve the same purpose. -/
theorem Directive.not_both_serve (h : (purposes (front ++ e :: f :: after)).Nodup)
    (purpose : Purpose) : ¬ (purpose? e.1 = some purpose ∧ purpose? f.1 = some purpose) := by
  rintro ⟨he, hf⟩
  simp [purposes, he, hf, List.nodup_append] at h

theorem ownEntries_swap (h : Directive.isKey e.1 ∨ Directive.isKey f.1) :
    ownEntries (front ++ e :: f :: after) = ownEntries (front ++ f :: e :: after) := by
  simp only [ownEntries, List.filter_append, List.filter_cons]
  grind

theorem walkOwn_swap (h : Directive.isKey e.1 ∨ Directive.isKey f.1) (path : TreePath)
    (scope : Scope) (result : Mapping) :
    walkOwn s fetch (front ++ e :: f :: after) path scope result
      = walkOwn s fetch (front ++ f :: e :: after) path scope result := by
  rw [walkOwn_eq, walkOwn_eq, ownEntries_swap h]

/-- **A directive and its neighbour can change places.** -/
theorem alike_walk_map_swap (h : Directive.isKey e.1 ∨ Directive.isKey f.1) (path : TreePath)
    (scope : Scope) :
    (walk s fetch (.map (front ++ e :: f :: after)) path scope).Alike
      (walk s fetch (.map (front ++ f :: e :: after)) path scope) := by
  rw [walk_map_eq, walk_map_eq]
  cases hc : Directive.conflict? (front ++ e :: f :: after) with
  -- which of two directives is told of may change, that there is a conflict may not
  | some conflict =>
    cases hc' : Directive.conflict? (front ++ f :: e :: after) with
    | some conflict' =>
      obtain ⟨hkey, hprevious⟩ := Directive.isKey_of_conflict? hc
      obtain ⟨hkey', hprevious'⟩ := Directive.isKey_of_conflict? hc'
      exact .fail path (.conflict hkey hprevious hkey' hprevious')
    | none =>
      rw [Directive.conflict?_eq_none_iff, ← Directive.purposes_swap_perm.nodup_iff,
        ← Directive.conflict?_eq_none_iff, hc] at hc'
      cases hc'
  | none =>
    rw [Directive.conflict?_eq_none_iff] at hc
    -- each step of the walk only looks at what serves its purpose, and that is as it was
    have hserving (purpose : Purpose) : Directive.serving purpose (front ++ e :: f :: after)
        = Directive.serving purpose (front ++ f :: e :: after) :=
      Directive.serving_swap (Directive.not_both_serve hc purpose)
    rw [Directive.purposes_swap_perm.nodup_iff, ← Directive.conflict?_eq_none_iff] at hc
    rw [hc]
    refine .of_eq ?_
    simp only [walkMade, ← walkBase_serving (front ++ _), ← walkLoop_serving (front ++ _),
      ← walkUpdates_serving (front ++ _), hserving, walkOwn_swap h]

end Nodes

/-! ### Documents -/

/-- One change to the directives of a document, at one of the mappings that are walked in it: a
directive changes places with the entry next to it, or is spelt in another way.  Such a mapping is
the document itself or one in it: an own entry, the mapping that another one extends, the template
of a loop, a value of a loop, what an update lays over an entry, or an item of a list. -/
inductive Respelling : Value → Value → Prop
  /-- A directive changes places with its neighbour. -/
  | swap {front after : Mapping} {e f : String × Value} :
    Directive.isKey e.1 ∨ Directive.isKey f.1 →
      Respelling (.map (front ++ e :: f :: after)) (.map (front ++ f :: e :: after))
  /-- A directive is spelt in another way. -/
  | rename {front after : Mapping} {key key' : String} {v : Value} :
    Directive.isKey key → Directive.ofKey? key = Directive.ofKey? key' →
      Respelling (.map (front ++ (key, v) :: after)) (.map (front ++ (key', v) :: after))
  /-- The change is in an own entry. -/
  | own {front after : Mapping} {key : String} {v v' : Value} :
    Directive.isKey key = false → Respelling v v' →
      Respelling (.map (front ++ (key, v) :: after)) (.map (front ++ (key, v') :: after))
  /-- The change is in a mapping that is extended. -/
  | extend {front after : Mapping} {key : String} {v v' : Value} :
    Directive.ofKey? key = some .extend → v.isMap → Respelling v v' →
      Respelling (.map (front ++ (key, v) :: after)) (.map (front ++ (key, v') :: after))
  /-- The change is in the template of a loop or in the list of its values. -/
  | loop {front after before others : Mapping} {key name : String} {v v' : Value} :
    Directive.ofKey? key = some .loop → Loop.IsNode name v → Respelling v v' →
      Respelling (.map (front ++ (key, .map (before ++ (name, v) :: others)) :: after))
        (.map (front ++ (key, .map (before ++ (name, v') :: others)) :: after))
  /-- The change is in what an update lays over an entry. -/
  | update {front after before others : Mapping} {key target : String} {v v' : Value} :
    Directive.ofKey? key = some .update → Respelling v v' →
      Respelling (.map (front ++ (key, .map (before ++ (target, v) :: others)) :: after))
        (.map (front ++ (key, .map (before ++ (target, v') :: others)) :: after))
  /-- The change is in an item of a list. -/
  | item {front after : List Value} {v v' : Value} :
    Respelling v v' → Respelling (.list (front ++ v :: after)) (.list (front ++ v' :: after))

theorem Respelling.kind_eq {v v' : Value} (h : Respelling v v') : v.kind = v'.kind := by
  cases h <;> rfl

theorem Respelling.str?_eq {v v' : Value} (h : Respelling v v') : v.str? = v'.str? := by
  cases h <;> rfl

section Nodes

variable {s : Surroundings} {fetch : String → String → TreePath → Scope → Walk Mapping}
  (hf : ∀ key key', Directive.ofKey? key = Directive.ofKey? key' → ∀ reference path scope,
    (fetch key reference path scope).Alike (fetch key' reference path scope))

include hf

/-- **After one change, a node is walked alike.** -/
theorem Respelling.alike_walk {v v' : Value} (h : Respelling v v') (path : TreePath)
    (scope : Scope) : (walk s fetch v path scope).Alike (walk s fetch v' path scope) := by
  induction h generalizing path scope with
  | swap hkey => exact alike_walk_map_swap hkey path scope
  | rename hkey hdir =>
    exact alike_walk_map ((EntryAlike.spelling _ hkey hdir).among _ _) hf path scope
  | own hkey hv ih =>
    have hnone := Directive.isKey_eq_false_iff.mp hkey
    have he := EntryAlike.node (.inl hnone) hv.kind_eq hv.str?_eq ih
    exact alike_walk_map (he.among _ _) hf path scope
  | extend hkey _ hv ih =>
    have he := EntryAlike.node (.inr hkey) hv.kind_eq hv.str?_eq ih
    exact alike_walk_map (he.among _ _) hf path scope
  | loop hkey hnode hv ih =>
    refine alike_walk_map (EntryAlike.among (EntryAlike.loop hkey ?_) _ _) hf path scope
    exact alike_walkInstances hnode hv.kind_eq ih
  | update hkey _ ih =>
    refine alike_walk_map (EntryAlike.among (EntryAlike.update hkey ?_) _ _) hf path scope
    exact alike_walkTargetEntries ih
  | @item front after v v' hv ih =>
    rw [walk_list_eq, walk_list_eq, walkItems_append, walkItems_append]
    refine (Alike.refl _).bind fun _ => Alike.bind ?_ fun values => .refl _
    -- the items before the changed one are walked first, those after it last
    refine (Alike.refl _).bind fun values => Alike.bind ?_ fun others => .refl _
    rw [walkItems, walkItems]
    -- what is stored of the item is the value, which is the same
    exact (ih (path.item _) scope).bind fun w => .refl _

/-- After any number of changes, a node is walked alike. -/
theorem alike_walk_of_respelled {v v' : Value} (h : Relation.ReflTransGen Respelling v v')
    (path : TreePath) (scope : Scope) :
    (walk s fetch v path scope).Alike (walk s fetch v' path scope) := by
  induction h with
  | refl => exact .refl _
  | tail _ hstep ih => exact ih.trans (hstep.alike_walk hf path scope)

end Nodes

/-- Two libraries that answer alike: both refuse for the same reason, or both have a document of the
same file, and the documents differ at most in where directives stand and how they are spelt. -/
def Library.Respelled (library library' : Library) : Prop :=
  ∀ reference folder, match library reference folder, library' reference folder with
    | .error e, .error e' => e = e'
    | .ok document, .ok document' => document.file = document'.file
      ∧ Relation.ReflTransGen Respelling document.content document'.content
    | _, _ => False

theorem Library.Respelled.refl (library : Library) : library.Respelled library := by
  intro reference folder
  cases library reference folder with
  | error e => rfl
  | ok document => exact ⟨rfl, .refl⟩

theorem alike_importedMapping {directive directive' : String}
    (h : Directive.ofKey? directive = Directive.ofKey? directive') (reference : String)
    (path : TreePath) (v : Value) :
    (importedMapping directive reference path v).Alike
      (importedMapping directive' reference path v) := by
  cases v <;> first | exact .refl _ | exact .fail path (.named _ h)

theorem alike_fetchBase_of {library library' : Library} (hl : library.Respelled library')
    {s : Surroundings} {budget : Nat} {directive directive' : String} {reference : String}
    {path : TreePath} {scope : Scope}
    (hwalk : ∀ document document' : Loaded, document.file = document'.file →
      Relation.ReflTransGen Respelling document.content document'.content →
      (walkImported library s document directive reference path scope budget).Alike
        (walkImported library' s document' directive' reference path scope budget)) :
    (fetchBase library s budget directive reference path scope).Alike
      (fetchBase library' s budget directive' reference path scope) := by
  intro p
  rw [run_fetchBase, run_fetchBase]
  have hanswer := hl reference (Request.folder? ⟨reference, p.origin, p.opened⟩)
  -- the libraries answer alike: both refuse, or both have a document of one file
  cases h : library reference (Request.folder? ⟨reference, p.origin, p.opened⟩) <;>
    cases h' : library' reference (Request.folder? ⟨reference, p.origin, p.opened⟩) <;>
    simp only [h, h'] at hanswer ⊢
  · subst hanswer
    exact ⟨.refl _, trivial⟩
  · next document document' =>
    obtain ⟨hfile, hcontent⟩ := hanswer
    rw [← hfile]
    split
    · exact ⟨.refl _, rfl⟩
    · exact hwalk document document' hfile hcontent _

/-- Imports from such libraries are alike, however the directive is spelt. -/
theorem alike_fetchBase {library library' : Library} (hl : library.Respelled library')
    (s : Surroundings) (budget : Nat) {directive directive' : String}
    (h : Directive.ofKey? directive = Directive.ofKey? directive') (reference : String)
    (path : TreePath) (scope : Scope) :
    (fetchBase library s budget directive reference path scope).Alike
      (fetchBase library' s budget directive' reference path scope) := by
  induction budget generalizing library library' directive directive' reference path scope with
  | zero => exact alike_fetchBase_of hl fun _ _ _ _ => .refl _
  | succ budget ih =>
    refine alike_fetchBase_of hl fun document document' hfile hcontent => ?_
    rw [walkImported, walkImported, ← hfile]
    refine Alike.bind (Alike.inside ?_ _) fun v => alike_importedMapping h reference path v
    -- first the document changes, and then what it imports
    have hdocument := alike_walk_of_respelled (s := s) (fun _ _ h => ih (.refl library) h) hcontent
      [] scope
    refine hdocument.trans ((congruence_alike s).of_walk (fun _ => ih hl rfl) _ [] scope)

/-- **Where directives stand and how they are spelt makes no difference.**  Take two documents,
and two libraries to import from, that differ in nothing else.  One document has a result if the
other has, and it is the same tree.  If one cannot be resolved, neither can the other, the fault is
at the same place, and it is the same but for the directives that its message quotes.  In any case
all else that is done is the same, the log included. -/
theorem walkRoot_respelled {library library' : Library} (hl : library.Respelled library')
    {document document' : Value} (hd : Relation.ReflTransGen Respelling document document')
    (s : Surroundings) (budget : Nat) (scope : Scope) (p : Progress) :
    let run := (walkRoot library s budget document scope).run p
    let run' := (walkRoot library' s budget document' scope).run p
    (∀ v, run.1 = .ok v ↔ run'.1 = .ok v)
      ∧ (∀ e, run.1 = .error e →
        ∃ e', run'.1 = .error e' ∧ e'.path = e.path ∧ e.fault.Alike e'.fault)
      ∧ run.2 = run'.2 := by
  intro run run'
  have halike : (walkRoot library s budget document scope).Alike
      (walkRoot library' s budget document' scope) := by
    refine (Alike.refl _).bind fun _ => Alike.bind ?_ fun v => .refl _
    -- first the document changes, and then the library that it imports from
    have hdocument := alike_walk_of_respelled (s := s)
      (fun _ _ h => alike_fetchBase (.refl library) s budget h) hd [] scope
    refine hdocument.trans ((congruence_alike s).of_walk (fun directive => ?_) document' [] scope)
    exact alike_fetchBase hl s budget rfl
  exact ⟨fun v => halike.ok_iff p v, fun e he => halike.exists_error he, (halike p).2⟩

/-- A directive moved and spelt in another way in a document, and so in a document that it
imports. -/
theorem walkRoot_respelled_of_import :
    let imported : Value := .map [("F.extend", .map [("a", .null)]), ("b", .str "R")]
    let imported' : Value := .map [("b", .str "R"), ("extends", .map [("a", .null)])]
    let document : Value := .map [("c", .str "R"), ("import", .str "x")]
    let document' : Value := .map [("F.inc", .str "x"), ("c", .str "R")]
    let library : Library := fun _ _ => .ok ⟨none, imported⟩
    let library' : Library := fun _ _ => .ok ⟨none, imported'⟩
    let s : Surroundings := ⟨.standard Range.halting, .standard, .keyless "fernet", Range.halting⟩
    let base : Mapping := [("a", .null), ("b", .map [("a", .null)])]
    let p : Progress := .start none []
    library.Respelled library' ∧ Relation.ReflTransGen Respelling document document'
      ∧ ((walkRoot library' s 1 document' []).run p).1
        = .ok (.map (base ++ [("c", .map base)])) := by
  intro imported imported' document document' library library' s base p
  have hrename (v : Value) (after : Mapping) :
      Respelling (.map (("F.extend", v) :: after)) (.map (("extends", v) :: after)) :=
    @Respelling.rename [] after "F.extend" "extends" v rfl rfl
  have hl : library.Respelled library' := by
    intro reference folder
    have hswap : Respelling (.map [("extends", .map [("a", .null)]), ("b", .str "R")]) imported' :=
      @Respelling.swap [] [] _ _ (.inl rfl)
    exact ⟨rfl, .tail (.single (hrename _ _)) hswap⟩
  have hd : Relation.ReflTransGen Respelling document document' := by
    have hswap : Respelling document (.map [("import", .str "x"), ("c", .str "R")]) :=
      @Respelling.swap [] [] _ _ (.inr rfl)
    have hname : Respelling (.map [("import", .str "x"), ("c", .str "R")]) document' :=
      @Respelling.rename [] _ "import" "F.inc" _ rfl rfl
    exact .tail (.single hswap) hname
  obtain ⟨hok, -, -⟩ := walkRoot_respelled hl hd s 1 [] p
  exact ⟨hl, hd, (hok _).mp rfl⟩

end ConfigTree
