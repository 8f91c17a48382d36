import ConfigTree.Proofs.Walk.Import
import Mathlib

/-!
# How deep imports can be nested

If all documents come from files, and there are so many files, then imports can be nested
no deeper than that: each enters a file that was not open.  So a budget as large as the
number of files is never used up, and more of it makes no difference, however the
documents import each other.  Since all other recursion goes down in a document, every
resolution comes to an end.

## Main definitions

* `closedFiles files opened` — those of the files that are not open.
* `Walk.AgreeWithin files n` — steps that agree, and do not end for want of a budget, while
  at most `n` of the files are not open.

## Main results

* `Walk.agreeWithin_fetchBase` — imports with budgets of at least `n` agree.
* `walkRoot_ends_within` — a budget as large as the number of files is enough.
-/

namespace ConfigTree

open Walk

/-! ### Files that are not open -/

/-- The files that are not open. -/
def closedFiles (files opened : List String) : List String :=
  files.filter fun f => !opened.any (FileName.same f)

theorem length_closedFiles_le (files opened : List String) :
    (closedFiles files opened).length ≤ files.length := List.length_filter_le _ _

/-- One file less is closed when another is opened. -/
theorem length_closedFiles_cons_lt {files opened : List String} {file : String}
    (hmem : file ∈ files) (hclosed : opened.any (FileName.same file) = false) :
    (closedFiles files (file :: opened)).length < (closedFiles files opened).length := by
  have hcons : closedFiles files (file :: opened)
      = (closedFiles files opened).filter fun f => !FileName.same f file := by
    unfold closedFiles
    rw [List.filter_filter]
    refine List.filter_congr fun f _ => ?_
    rw [List.any_cons, Bool.not_or]
  -- the file itself was closed, and is the one that no longer is
  have hself : FileName.same file file = true := beq_self_eq_true _
  rw [hcons, List.length_filter_lt_length_iff_exists]
  exact ⟨file, List.mem_filter.mpr ⟨hmem, by rw [hclosed]; rfl⟩, by rw [hself]; simp⟩

/-! ### Steps that agree -/

variable {α β : Type}

/-- Two steps do the same from a progress, and do not end for want of a budget. -/
structure Walk.AgreeAt (act act' : Walk α) (p : Progress) : Prop where
  /-- The same is done. -/
  run_eq : act.run p = act'.run p
  /-- If it fails, then not because imports are nested too deep. -/
  fault_ne : ∀ e, (act.run p).1 = .error e → e.fault ≠ .importDepth

/-- Two steps that agree while at most `n` of the files are not open. -/
structure Walk.AgreeWithin (files : List String) (n : Nat) (act act' : Walk α) : Prop where
  /-- The files are left as they are. -/
  keeps : act.Keeps
  /-- They agree. -/
  agree (p : Progress) : (closedFiles files p.opened).length ≤ n → AgreeAt act act' p

namespace Walk

variable {files : List String} {n : Nat} {act act' : Walk α} {p : Progress}

theorem AgreeAt.of_ok {a : α} (h : (act.run p).1 = .ok a) : AgreeAt act act p :=
  ⟨rfl, fun _ he => absurd (h.symm.trans he) nofun⟩

theorem AgreeAt.of_error {e : DocumentError} (h : (act.run p).1 = .error e)
    (he : e.fault ≠ .importDepth) : AgreeAt act act p :=
  ⟨rfl, fun _ he' => Except.error.inj (h.symm.trans he') ▸ he⟩

theorem AgreeAt.bind {f f' : α → Walk β} (ha : AgreeAt act act' p)
    (hf : ∀ a q, act.run p = (.ok a, q) → AgreeAt (f a) (f' a) q) :
    AgreeAt (act >>= f) (act' >>= f') p := by
  obtain ⟨heq, hne⟩ := ha
  rcases h : act.run p with ⟨e | a, q⟩ <;> rw [h] at heq hne
  · refine ⟨by rw [run_bind_of_error h, run_bind_of_error heq.symm], ?_⟩
    rw [run_bind_of_error h]
    intro e' he'
    exact hne e' (congrArg _ (Except.error.inj he'))
  · obtain ⟨heq', hne'⟩ := hf a q h
    refine ⟨by rw [run_bind_of_ok h, run_bind_of_ok heq.symm, heq'], ?_⟩
    rwa [run_bind_of_ok h]

theorem AgreeWithin.bind {f f' : α → Walk β} (ha : AgreeWithin files n act act')
    (hf : ∀ a, AgreeWithin files n (f a) (f' a)) :
    AgreeWithin files n (act >>= f) (act' >>= f') where
  keeps := ha.keeps.bind fun a => (hf a).keeps
  agree p hp := (ha.agree p hp).bind fun a q h => by
    -- the first step leaves the open files as they are, so the second one has as many
    have hq := (ha.keeps.files_eq h).2
    exact (hf a).agree q (by rwa [hq])

theorem AgreeWithin.of_ok (hk : act.Keeps) (h : ∀ p, ∃ a, (act.run p).1 = .ok a) :
    AgreeWithin files n act act where
  keeps := hk
  agree p _ := (h p).elim fun _ => .of_ok

theorem AgreeWithin.of_fail (path : TreePath) {fault : DocumentFault}
    (h : fault ≠ .importDepth) :
    AgreeWithin files n (fail path fault : Walk α) (fail path fault) where
  keeps _ := ⟨rfl, rfl⟩
  agree _ _ := .of_error rfl h

theorem AgreeWithin.onIndex (f : Value → Value) :
    AgreeWithin files n (onIndex f) (onIndex f) :=
  .of_ok (fun _ => ⟨rfl, rfl⟩) fun _ => ⟨_, rfl⟩

theorem congruence_agreeWithin (s : Surroundings) (files : List String) (n : Nat) :
    Congruence s fun _ _ act act' => AgreeWithin files n act act' where
  pure _ a := .of_ok (fun _ => ⟨rfl, rfl⟩) fun _ => ⟨a, rfl⟩
  bind ha hf := ha.bind hf
  fail _ place fault hfault := .of_fail place fun heq => by
    subst heq
    exact hfault
  evaluate _ _ _ := .of_ok (fun _ => ⟨rfl, rfl⟩) fun _ => ⟨_, rfl⟩
  kept _ _ _ := .of_ok (fun _ => ⟨rfl, rfl⟩) fun _ => ⟨_, rfl⟩
  put _ _ _ := .onIndex _
  openMap _ := .onIndex _
  overlayAt _ _ := .onIndex _
  forget _ _ := .onIndex _
  below ha := ha

/-! ### Imports -/

variable {library : Library} {s : Surroundings} {directive reference : String} {path : TreePath}
  {scope : Scope}

theorem agreeAt_importedMapping (v : Value) :
    AgreeAt (importedMapping directive reference path v)
      (importedMapping directive reference path v) p := by
  cases v with
  | map | null => exact .of_ok rfl
  | _ => exact .of_error rfl nofun

theorem AgreeAt.inside {file : Option String} (h : AgreeAt act act' (p.enter file)) :
    AgreeAt (inside file act) (inside file act') p :=
  ⟨by rw [run_inside, run_inside, h.run_eq], h.fault_ne⟩

/-- Two imports agree if they do with the document that they walk. -/
theorem agreeAt_fetchBase {b b' : Nat}
    (h : ∀ document folder requests, library reference folder = .ok document →
      document.file.filter (fun f => p.opened.any (FileName.same f)) = none →
      AgreeAt (walkImported library s document directive reference path scope b)
        (walkImported library s document directive reference path scope b')
        { p with requests := requests }) :
    AgreeAt (fetchBase library s b directive reference path scope)
      (fetchBase library s b' directive reference path scope) p := by
  have hrun : (fetchBase library s b directive reference path scope).run p
        = (fetchBase library s b' directive reference path scope).run p
      ∧ ∀ e, ((fetchBase library s b directive reference path scope).run p).1 = .error e →
        e.fault ≠ .importDepth := by
    rw [run_fetchBase, run_fetchBase]
    -- no document, a circular import or the walk of the document; only the last needs budget
    split
    · refine ⟨rfl, fun e he => ?_⟩
      obtain rfl := Except.error.inj he
      intro heq
      cases heq
    · next document hdoc =>
      split
      · refine ⟨rfl, fun e he => ?_⟩
        obtain rfl := Except.error.inj he
        intro heq
        cases heq
      · next hclosed =>
        obtain ⟨heq, hne⟩ := h document _ _ hdoc hclosed
        exact ⟨heq, hne⟩
  exact ⟨hrun.1, hrun.2⟩

/-- **Imports with budgets of at least `n` agree** while at most `n` files are not open, if all
documents come from the files. -/
theorem agreeWithin_fetchBase
    (hfiles : ∀ reference folder document, library reference folder = .ok document →
      ∃ file ∈ files, document.file = some file) {b b' : Nat} (hb : n ≤ b) (hb' : n ≤ b')
    (directive reference : String) (path : TreePath) (scope : Scope) :
    AgreeWithin files n (fetchBase library s b directive reference path scope)
      (fetchBase library s b' directive reference path scope) := by
  induction n using Nat.strongRecOn generalizing b b' directive reference path scope with
  | _ n ih =>
    refine ⟨(closed_keeps s).of_fetchBase library b directive reference path scope, fun p hp => ?_⟩
    refine agreeAt_fetchBase fun document folder requests hdoc hclosed => ?_
    obtain ⟨file, hmem, hfile⟩ := hfiles reference folder document hdoc
    rw [hfile] at hclosed
    -- once the file is open one less is not, so that some of the budgets must be left
    have hlt := length_closedFiles_cons_lt hmem (by simpa using hclosed)
    obtain ⟨n, rfl⟩ := Nat.exists_eq_succ_of_ne_zero (by omega : n ≠ 0)
    obtain ⟨b, rfl⟩ := Nat.exists_eq_succ_of_ne_zero (by omega : b ≠ 0)
    obtain ⟨b', rfl⟩ := Nat.exists_eq_succ_of_ne_zero (by omega : b' ≠ 0)
    refine AgreeAt.bind (.inside ?_) fun v _ _ => agreeAt_importedMapping v
    refine AgreeWithin.agree ((congruence_agreeWithin s files n).of_walk
      (ih n (Nat.lt_succ_self n) (Nat.le_of_succ_le_succ hb) (Nat.le_of_succ_le_succ hb'))
      document.content [] scope) _ ?_
    simp only [Progress.enter, hfile, Option.toList_some, List.singleton_append]
    omega

end Walk

/-! ### Whole runs -/

/-- **Every run ends.**  If all documents that a library has come from some files, then a budget as
large as the number of files is enough: whatever is resolved, and from wherever, the run comes to a
value or to a fault of the documents, and it is the same with every larger budget. -/
theorem walkRoot_ends_within {library : Library} {files : List String}
    (hfiles : ∀ reference folder document, library reference folder = .ok document →
      ∃ file ∈ files, document.file = some file) (s : Surroundings) (document : Value)
    (scope : Scope) (p : Progress) {budget : Nat} (hbudget : files.length ≤ budget) :
    let run := (walkRoot library s budget document scope).run p
    ((∃ v, run.1 = .ok v) ∨ ∃ e, run.1 = .error e ∧ e.fault ≠ .importDepth)
      ∧ run = (walkRoot library s files.length document scope).run p := by
  intro run
  have hwalk := (congruence_agreeWithin s files files.length).of_walk
    (agreeWithin_fetchBase (s := s) hfiles hbudget (Nat.le_refl _)) document [] scope
  -- around the walk the root sets the index, which costs nothing
  have hroot : AgreeWithin files files.length (walkRoot library s budget document scope)
      (walkRoot library s files.length document scope) := by
    refine (AgreeWithin.onIndex _).bind fun _ => hwalk.bind fun v => ?_
    exact (AgreeWithin.onIndex _).bind fun _ =>
      (congruence_agreeWithin s files files.length).pure [] v
  obtain ⟨heq, hne⟩ := hroot.agree p (length_closedFiles_le files p.opened)
  refine ⟨?_, heq⟩
  rcases h : run.1 with e | v
  · exact Or.inr ⟨e, rfl, hne e h⟩
  · exact Or.inl ⟨v, rfl⟩

/-- A file that imports itself: one import is all that is ever walked. -/
theorem walkRoot_ends_within_of_loop :
    let library : Library := fun _ _ => .ok ⟨some "a", .map [("import", .str "a")]⟩
    let s : Surroundings := ⟨.standard Range.halting, .standard, .keyless "fernet", Range.halting⟩
    let document : Value := .list [.map [("import", .str "a")]]
    let run := (walkRoot library s 100 document []).run (.start none [])
    (∀ reference folder document, library reference folder = .ok document →
      ∃ file ∈ ["a"], document.file = some file)
      ∧ (∃ e, run.1 = .error e ∧ e.fault ≠ .importDepth)
      ∧ run = (walkRoot library s 1 document []).run (.start none []) := by
  intro library s document run
  have hfiles : ∀ reference folder document, library reference folder = .ok document →
      ∃ file ∈ ["a"], document.file = some file := by
    intro reference folder document h
    obtain rfl := Except.ok.inj h
    exact ⟨"a", List.mem_singleton_self _, rfl⟩
  have hrun : ((walkRoot library s 100 document []).run (.start none [])).1
      = .error ⟨[], .circularImport "a"⟩ := by cbv
  obtain ⟨hends, hsame⟩ := @walkRoot_ends_within library ["a"] hfiles s document [] (.start none [])
    100 (by decide)
  have hfault : ∃ e, run.1 = .error e ∧ e.fault ≠ .importDepth := by
    rcases hends with ⟨v, hv⟩ | hfault
    · cases hv.symm.trans hrun
    · exact hfault
  exact ⟨hfiles, hfault, hsame⟩

end ConfigTree
