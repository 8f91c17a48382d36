import ConfigTree.Cipher.Fernet
import ConfigTree.Proofs.Walk.Closure
import Mathlib

/-!
# Imports keep to themselves

The document that a directive imports is walked as if it were the root.  It sees nothing
of the tree that the importing document has resolved so far, and that tree is the same
after it; what it logs and asks for comes behind what was logged and asked for before.

Two properties of all walks are behind this.  A walk leaves the file of the document and
the open files as they are, since whatever enters a document leaves it again, and what
was logged and asked for before a walk has no part in it.

## Main definitions

* `Walk.Keeps act` — `act` leaves the files as they are.
* `Progress.after` — the progress with more logged and asked for before it.
* `Walk.Appends act` — `act` does the same whatever was logged and asked for before.
* `Progress.atRoot` — the progress in which a document is walked as the root.
* `importedOutcome` — what an import makes of the outcome of the walk.

## Main results

* `Walk.keeps_walk`, `Walk.appends_walk` — all walks are so.
* `run_fetchBase_eq` — an import, from a walk of the document as the root.
-/

namespace ConfigTree

/-! ### The files -/

/-- A step that leaves the file of the document and the open files as they are. -/
def Walk.Keeps {α : Type} (act : Walk α) : Prop :=
  ∀ p, (act.run p).2.origin = p.origin ∧ (act.run p).2.opened = p.opened

namespace Walk

variable {α β : Type} {act : Walk α} {s : Surroundings}

theorem Keeps.files_eq (h : act.Keeps) {p q : Progress} {outcome : Except DocumentError α}
    (hrun : act.run p = (outcome, q)) : q.origin = p.origin ∧ q.opened = p.opened := by
  have hp := h p
  rwa [hrun] at hp

theorem Keeps.bind {f : α → Walk β} (ha : act.Keeps) (hf : ∀ a, (f a).Keeps) :
    (act >>= f).Keeps := by
  intro p
  rcases h : act.run p with ⟨e | a, q⟩
  · rw [run_bind_of_error h]
    have hq := ha p
    rwa [h] at hq
  · rw [run_bind_of_ok h]
    have hq := ha p
    rw [h] at hq
    exact ⟨(hf a q).1.trans hq.1, (hf a q).2.trans hq.2⟩

/-- Whoever enters a document leaves it again. -/
theorem Keeps.inside (ha : act.Keeps) (file : Option String) : (inside file act).Keeps := by
  intro p
  rw [run_inside]
  refine ⟨rfl, ?_⟩
  -- the file in front of the open ones is the one put there
  have hq : (act.run (p.enter file)).2.opened = file.toList ++ p.opened := (ha (p.enter file)).2
  simp only [Progress.leave, hq, List.drop_left]

theorem closed_keeps (s : Surroundings) : Closed s fun _ => Keeps where
  pure _ _ := fun _ => ⟨rfl, rfl⟩
  bind ha hf := ha.bind hf
  fail _ _ _ := fun _ => ⟨rfl, rfl⟩
  evaluate _ _ _ := fun _ => ⟨rfl, rfl⟩
  kept _ _ _ := fun _ => ⟨rfl, rfl⟩
  put _ _ _ := fun _ => ⟨rfl, rfl⟩
  openMap _ := fun _ => ⟨rfl, rfl⟩
  overlayAt _ _ := fun _ => ⟨rfl, rfl⟩
  forget _ _ := fun _ => ⟨rfl, rfl⟩
  below ha := ha
  ask _ _ := fun _ => ⟨rfl, rfl⟩
  inside ha := ha.inside _

/-- **A walk leaves the files as they are**, also if it goes wrong inside of other documents. -/
theorem keeps_walk (library : Library) (s : Surroundings) (budget : Nat) (v : Value)
    (path : TreePath) (scope : Scope) : (walk s (fetchBase library s budget) v path scope).Keeps :=
  (closed_keeps s).of_walk ((closed_keeps s).of_fetchBase library budget) v path scope

end Walk

/-! ### What was before -/

/-- The progress with more logged and asked for before it. -/
def Progress.after (p : Progress) (log : Log) (requests : List Request) : Progress :=
  { p with log := log ++ p.log, requests := requests ++ p.requests }

/-- A step that does the same whatever was logged and asked for before. -/
def Walk.Appends {α : Type} (act : Walk α) : Prop :=
  ∀ p log requests,
    act.run (p.after log requests) = ((act.run p).1, (act.run p).2.after log requests)

namespace Walk

variable {α β : Type} {act : Walk α} {s : Surroundings}

theorem Appends.bind {f : α → Walk β} (ha : act.Appends) (hf : ∀ a, (f a).Appends) :
    (act >>= f).Appends := by
  intro p log requests
  have hq := ha p log requests
  rcases h : act.run p with ⟨e | a, q⟩
  · rw [h] at hq
    rw [run_bind_of_error h, run_bind_of_error hq]
  · rw [h] at hq
    rw [run_bind_of_ok h, run_bind_of_ok hq, hf a q log requests]

theorem Appends.inside (ha : act.Appends) (file : Option String) : (inside file act).Appends := by
  intro p log requests
  rw [run_inside, run_inside]
  have hq := ha (p.enter file) log requests
  -- to enter a document and to have more before it commute
  have henter : (p.after log requests).enter file = (p.enter file).after log requests := rfl
  rw [henter, hq]
  rfl

theorem closed_appends (s : Surroundings) : Closed s fun _ => Appends where
  pure _ _ := fun _ _ _ => rfl
  bind ha hf := ha.bind hf
  fail _ _ _ := fun _ _ _ => rfl
  evaluate _ _ _ := fun _ _ _ => rfl
  kept _ place e := fun p log requests => by
    simp only [run_logKept, Progress.after, Log.addKept, List.append_assoc]
  put _ _ _ := fun _ _ _ => rfl
  openMap _ := fun _ _ _ => rfl
  overlayAt _ _ := fun _ _ _ => rfl
  forget _ _ := fun _ _ _ => rfl
  below ha := ha
  ask _ reference := fun p log requests => by
    simp only [run_ask, Progress.after, List.append_assoc]
  inside ha := ha.inside _

/-- **What was logged and asked for before a walk has no part in it.** -/
theorem appends_walk (library : Library) (s : Surroundings) (budget : Nat) (v : Value)
    (path : TreePath) (scope : Scope) :
    (walk s (fetchBase library s budget) v path scope).Appends :=
  (closed_appends s).of_walk ((closed_appends s).of_fetchBase library budget) v path scope

end Walk

/-! ### Documents as roots -/

/-- The progress in which a document is walked as the root: nothing is resolved, logged or asked
for.  The texts go on being numbered from `texts`. -/
def Progress.atRoot (texts : Nat) (origin : Option String) (opened : List String) : Progress where
  index := .null
  log := []
  requests := []
  texts := texts
  origin := origin
  opened := opened
  seen := fun _ _ => False

namespace Walk

variable {α : Type} {act : Walk α}

/-- What is done inside of another document is done as at the root. -/
theorem Appends.run_inside_eq (ha : act.Appends) (hk : act.Keeps) (file : Option String)
    (p : Progress) :
    let done := act.run (.atRoot p.texts (file.or p.origin) (file.toList ++ p.opened))
    (Walk.inside file act).run p = (done.1,
      { p with
        log := p.log ++ done.2.log
        requests := p.requests ++ done.2.requests
        texts := done.2.texts }) := by
  intro done
  let start := Progress.atRoot p.texts (file.or p.origin) (file.toList ++ p.opened)
  -- the other document starts as at the root, but for what was before
  have henter : p.enter file = start.after p.log p.requests := by
    simp only [Progress.enter, Progress.after, start, Progress.atRoot, List.append_nil]
  have hdone : act.run (p.enter file) = (done.1, done.2.after p.log p.requests) := by
    rw [henter]
    exact ha start p.log p.requests
  have hopened : done.2.opened = file.toList ++ p.opened := (hk start).2
  rw [Walk.run_inside, hdone]
  simp only [Progress.leave, Progress.after, hopened, List.drop_left]

theorem keeps_walkRoot (library : Library) (s : Surroundings) (budget : Nat) (document : Value)
    (scope : Scope) : (walkRoot library s budget document scope).Keeps := by
  have hindex : ∀ f, (onIndex f).Keeps := fun f p => ⟨rfl, rfl⟩
  refine (hindex _).bind fun _ => ?_
  refine (keeps_walk library s budget document [] scope).bind fun v => ?_
  exact (hindex _).bind fun _ p => ⟨rfl, rfl⟩

theorem appends_walkRoot (library : Library) (s : Surroundings) (budget : Nat) (document : Value)
    (scope : Scope) : (walkRoot library s budget document scope).Appends := by
  have hindex : ∀ f, (onIndex f).Appends := fun f p log requests => rfl
  refine (hindex _).bind fun _ => ?_
  refine (appends_walk library s budget document [] scope).bind fun v => ?_
  exact (hindex _).bind fun _ p log requests => rfl

/-- A whole run starts with no index, and what it resolves is the index in the end. -/
theorem run_walkRoot (library : Library) (s : Surroundings) (budget : Nat) (document : Value)
    (scope : Scope) (p : Progress) :
    (walkRoot library s budget document scope).run p
      = match (walk s (fetchBase library s budget) document [] scope).run (p.withIndex .null) with
        | (.ok v, q) => (.ok v, q.withIndex v)
        | (.error e, q) => (.error e, q) := by
  rw [walkRoot, run_onIndex_bind, run_bind]
  rcases (walk s (fetchBase library s budget) document [] scope).run (p.withIndex .null) with
    ⟨e | v, q⟩ <;> rfl

theorem requests_run_walkRoot (library : Library) (s : Surroundings) (budget : Nat)
    (document : Value) (scope : Scope) (p : Progress) :
    ((walkRoot library s budget document scope).run p).2.requests
      = ((walk s (fetchBase library s budget) document [] scope).run
        (p.withIndex .null)).2.requests := by
  rw [run_walkRoot]
  rcases (walk s (fetchBase library s budget) document [] scope).run (p.withIndex .null) with
    ⟨e | v, q⟩ <;> rfl

/-- Inside of another document there is no index at first and none is left, so that it makes no
difference whether a document is walked whole or just its node. -/
theorem run_inside_walk (library : Library) (s : Surroundings) (budget : Nat) (document : Value)
    (scope : Scope) (file : Option String) (p : Progress) :
    (inside file (walk s (fetchBase library s budget) document [] scope)).run p
      = (inside file (walkRoot library s budget document scope)).run p := by
  -- to enter a document empties the index
  have hroot : (p.enter file).withIndex .null = p.enter file := rfl
  rw [run_inside, run_inside, walkRoot, run_onIndex_bind, hroot]
  rcases h : (walk s (fetchBase library s budget) document [] scope).run (p.enter file) with
    ⟨e | v, q⟩
  · rw [run_bind_of_error h]
  · rw [run_bind_of_ok h]
    rfl

end Walk

/-! ### Imports -/

open Walk

/-- The walk of a document that may be imported. -/
def walkImported (library : Library) (s : Surroundings) (document : Loaded)
    (directive reference : String) (path : TreePath) (scope : Scope) : Nat → Walk Mapping
  | 0 => fail path .importDepth
  | budget + 1 => do
    let v ← inside document.file
      (walk s (fetchBase library s budget) document.content [] scope)
    importedMapping directive reference path v

/-- What an import does: it asks, and either there is no document, or its file is open, or it is
walked. -/
theorem run_fetchBase (library : Library) (s : Surroundings) (budget : Nat)
    (directive reference : String) (path : TreePath) (scope : Scope) (p : Progress) :
    let request : Request := ⟨reference, p.origin, p.opened⟩
    let next : Progress := { p with requests := p.requests ++ [request] }
    (fetchBase library s budget directive reference path scope).run p
      = match library reference request.folder? with
        | .error e => (.error ⟨path, .importing reference e⟩, next)
        | .ok document =>
          match document.file.filter request.isOpen with
          | some file => (.error ⟨path, .circularImport file⟩, next)
          | none =>
            (walkImported library s document directive reference path scope budget).run next := by
  intro request next
  rw [fetchBase, run_bind_of_ok (run_ask reference p)]
  cases library reference request.folder? with
  | error e => rfl
  | ok document =>
    simp only [request]
    cases document.file.filter (Request.isOpen ⟨reference, p.origin, p.opened⟩) with
    | some file => rfl
    -- the budget is looked at last, when there is something to walk
    | none => cases budget <;> rfl

/-- What an import makes of the outcome of the walk.  The directive and its place come in only
if the document holds neither a mapping nor nothing. -/
def importedOutcome (directive reference : String) (path : TreePath) :
    Except DocumentError Value → Except DocumentError Mapping
  | .error e => .error e
  | .ok (.map entries) => .ok entries
  | .ok .null => .ok []
  | .ok v => .error ⟨path, .directive directive (.imported reference v.kind)⟩

theorem run_importedMapping (directive reference : String) (path : TreePath) (v : Value)
    (p : Progress) : (importedMapping directive reference path v).run p
      = (importedOutcome directive reference path (.ok v), p) := by
  cases v <;> rfl

/-- **An import is isolated.**  Once the library has answered with a document whose file is not
open, the outcome is that of the document walked as the root, and so is what comes to be logged
and asked for.  The index, the file of the document and the open files are then what they were
before, whether the outcome is good or not. -/
theorem run_fetchBase_eq (library : Library) (s : Surroundings) (budget : Nat)
    (directive reference : String) (path : TreePath) (scope : Scope) (p : Progress)
    (document : Loaded) (hdoc : library reference (p.origin.bind FileName.folder?) = .ok document)
    (hclosed : ∀ file, document.file = some file → ¬ p.opened.any (FileName.same file)) :
    let walked := (walkRoot library s budget document.content scope).run
      (.atRoot p.texts (document.file.or p.origin) (document.file.toList ++ p.opened))
    (fetchBase library s (budget + 1) directive reference path scope).run p
      = (importedOutcome directive reference path walked.1,
        { p with
          log := p.log ++ walked.2.log
          requests := p.requests ++ ⟨reference, p.origin, p.opened⟩ :: walked.2.requests
          texts := walked.2.texts }) := by
  intro walked
  let request : Request := ⟨reference, p.origin, p.opened⟩
  have hfolder : library reference request.folder? = .ok document := hdoc
  -- the import gets past the library and the open files
  have hnone : document.file.filter request.isOpen = none := by
    cases h : document.file with
    | none => rfl
    | some file =>
      have hfile := hclosed file h
      simpa [Request.isOpen, request] using hfile
  rw [fetchBase, run_bind_of_ok (run_ask reference p)]
  simp only [request] at hfolder hnone
  simp only [hfolder, hnone]
  -- the request is part of what was before, so the root is walked without it
  have hinside := (appends_walkRoot library s budget document.content scope).run_inside_eq
    (keeps_walkRoot library s budget document.content scope) document.file
    { p with requests := p.requests ++ [request] }
  rw [← run_inside_walk] at hinside
  simp only [List.append_assoc, List.singleton_append] at hinside
  rcases hw : walked.1 with e | v
  · rw [run_bind_of_error (hinside.trans (congrArg (·, _) hw))]
    rfl
  · rw [run_bind_of_ok (hinside.trans (congrArg (·, _) hw)), run_importedMapping]

/-- A document that a file imports sees its own tree as `R`, whatever the file has resolved. -/
theorem run_fetchBase_from_file :
    let library : Library := fun _ _ => .ok ⟨some "b", .map [("k", .str "R")]⟩
    let s : Surroundings := ⟨.standard Range.halting, .standard, .keyless "fernet", Range.halting⟩
    let p : Progress := ⟨.map [("x", .bool true)], [], [], 7, some "a", ["a"], fun _ _ => False⟩
    (fetchBase library s 1 "import" "b" [.key "m"] []).run p
      = (.ok [("k", .map [])],
        { p with requests := [⟨"b", some "a", ["a"]⟩], texts := 8 }) := by
  intro library s p
  have hclosed : ∀ file, some "b" = some file → ¬ p.opened.any (FileName.same file) := by
    intro file h
    obtain rfl := Option.some.inj h
    have hne : FileName.same "b" "a" = false := by cbv
    simp [p, hne]
  exact run_fetchBase_eq library s 0 "import" "b" [.key "m"] [] p ⟨some "b", _⟩ rfl hclosed

end ConfigTree
