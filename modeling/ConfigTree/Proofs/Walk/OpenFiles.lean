import ConfigTree.Proofs.Files.Folder
import ConfigTree.Proofs.Walk.Requests
import Mathlib

/-!
# No file is entered while it is open

Whenever a walk asks for a document, the open files are in order, and so they are at every
node it comes to.  A document whose file is open is not entered: that it was asked for is
the one reason for which a walk ends with a circular import.  A file that is closed again
can be imported anew.

## Main definitions

* `Request.Reopens library file r` — the request is answered by a file that is open.
* `EndsWithReopening library asked outcome` — the outcome of requests is a circular import
  exactly if one of them is answered by an open file.

## Main results

* `Walk.endsWithReopening_fetchBase`, `Walk.endsWithReopening_walkRoot` — imports and whole
  runs end so.
* `walkRoot_filesInOrder` — the open files in all of a run.
-/

namespace ConfigTree

open Walk

variable {α β : Type} {library : Library} {s : Surroundings}

/-! ### Requests up to an outcome -/

/-- The request is answered by a document from a file that is open. -/
def Request.Reopens (library : Library) (file : String) (r : Request) : Prop :=
  ∃ content, library r.reference r.folder? = .ok ⟨some file, content⟩ ∧ r.isOpen file = true

theorem Request.not_reopens_of_error {r : Request} {e : LoadError}
    (h : library r.reference r.folder? = .error e) (file : String) :
    ¬ r.Reopens library file := by
  rintro ⟨content, hok, -⟩
  cases h.symm.trans hok

theorem Request.reopens_iff {r : Request} {document : Loaded}
    (h : library r.reference r.folder? = .ok document) (file : String) :
    r.Reopens library file ↔ document.file.filter r.isOpen = some file := by
  rw [Option.filter_eq_some_iff]
  constructor
  · rintro ⟨content, hok, hopen⟩
    obtain rfl := Except.ok.inj (h.symm.trans hok)
    exact ⟨rfl, hopen⟩
  · rintro ⟨hfile, hopen⟩
    exact ⟨document.content, by rw [h, ← hfile], hopen⟩

/-- Requests are made up to an outcome; that is a circular import of a file exactly if one of them
is answered by it while it is open. -/
def EndsWithReopening (library : Library) (asked : List Request)
    (outcome : Except DocumentError α) : Prop :=
  ∀ file, (∃ path, outcome = .error ⟨path, .circularImport file⟩)
    ↔ ∃ r ∈ asked, r.Reopens library file

/-- The walk has not ended with a circular import. -/
def NotCircular (outcome : Except DocumentError α) : Prop :=
  ∀ path file, outcome ≠ .error ⟨path, .circularImport file⟩

namespace EndsWithReopening

variable {asked more : List Request} {outcome : Except DocumentError α}

theorem nil (h : NotCircular outcome) : EndsWithReopening library [] outcome := by
  intro file
  constructor
  · rintro ⟨path, hpath⟩
    exact absurd hpath (h path file)
  · rintro ⟨r, hr, -⟩
    cases hr

/-- The last request is answered by an open file. -/
theorem reopened {r : Request} {file : String}
    (h : ∀ other, r.Reopens library other ↔ some file = some other) (path : TreePath) :
    EndsWithReopening library [r]
      (.error ⟨path, .circularImport file⟩ : Except DocumentError α) := by
  intro other
  simp only [List.mem_singleton, exists_eq_left, h other]
  constructor
  · rintro ⟨place, heq⟩
    cases heq
    rfl
  · intro heq
    obtain rfl := Option.some.inj heq
    exact ⟨path, rfl⟩

/-- The walk goes on after a request that is not answered by an open file. -/
theorem cons {r : Request} (hr : ∀ file, ¬ r.Reopens library file)
    (h : EndsWithReopening library more outcome) :
    EndsWithReopening library (r :: more) outcome := by
  intro file
  rw [h file]
  simp only [List.mem_cons, or_and_right, exists_or, exists_eq_left, hr file, false_or]

/-- The walk goes on after requests that were answered well. -/
theorem append {a : β} (h : EndsWithReopening library asked (.ok a : Except DocumentError β))
    (hm : EndsWithReopening library more outcome) :
    EndsWithReopening library (asked ++ more) outcome := by
  intro file
  -- those that were answered well did not end the walk, so none of them reopened a file
  have hnone : ¬ ∃ r ∈ asked, r.Reopens library file := by
    rw [← h file]
    simp
  rw [hm file]
  constructor
  · rintro ⟨r, hr, hopen⟩
    exact ⟨r, List.mem_append_right _ hr, hopen⟩
  · rintro ⟨r, hr, hopen⟩
    rcases List.mem_append.mp hr with hr | hr
    · exact absurd ⟨r, hr, hopen⟩ hnone
    · exact ⟨r, hr, hopen⟩

/-- What has failed goes on to fail in the same way. -/
theorem of_error {e : DocumentError}
    (h : EndsWithReopening library asked (.error e : Except DocumentError α)) :
    EndsWithReopening library asked (.error e : Except DocumentError β) := by
  intro file
  rw [← h file]
  simp only [Except.error.injEq]

end EndsWithReopening

/-! ### Steps that end so -/

/-- Whatever was asked for before, what a step asks for ends with the reopening of a file, or with
none. -/
def Walk.EndsWithReopening (library : Library) (act : Walk α) : Prop :=
  ∀ p, ∃ asked, (act.run p).2.requests = p.requests ++ asked
    ∧ ConfigTree.EndsWithReopening library asked (act.run p).1

namespace Walk

variable {act : Walk α}

theorem EndsWithReopening.of_quiet (hr : act.Quiet) (hn : ∀ p, NotCircular (act.run p).1) :
    act.EndsWithReopening library :=
  fun p => ⟨[], by rw [hr p, List.append_nil], .nil (hn p)⟩

theorem EndsWithReopening.bind {f : α → Walk β} (ha : act.EndsWithReopening library)
    (hf : ∀ a, (f a).EndsWithReopening library) : (act >>= f).EndsWithReopening library := by
  intro p
  obtain ⟨asked, hreq, hasked⟩ := ha p
  rcases h : act.run p with ⟨e | a, q⟩ <;> rw [h] at hreq hasked
  · rw [run_bind_of_error h]
    exact ⟨asked, hreq, hasked.of_error⟩
  · rw [run_bind_of_ok h]
    obtain ⟨more, hmore, hmore'⟩ := hf a q
    exact ⟨asked ++ more, by rw [hmore, hreq, List.append_assoc], hasked.append hmore'⟩

/-- What is asked for inside of another document. -/
theorem EndsWithReopening.inside (ha : act.EndsWithReopening library) (file : Option String) :
    (inside file act).EndsWithReopening library := fun p => ha (p.enter file)

theorem EndsWithReopening.of_fail (path : TreePath) {fault : DocumentFault}
    (h : ∀ file, fault ≠ .circularImport file) :
    (fail path fault : Walk α).EndsWithReopening library :=
  .of_quiet (fun _ => rfl) fun _ _ file heq =>
    h file (DocumentError.mk.inj (Except.error.inj heq)).2

theorem EndsWithReopening.onIndex (f : Value → Value) :
    (onIndex f).EndsWithReopening library := .of_quiet (fun _ => rfl) fun _ _ _ => nofun

/-- All walks in a document end so if the imports do. -/
theorem congruence_endsWithReopening (library : Library) (s : Surroundings) :
    Congruence s fun _ _ act _ => act.EndsWithReopening library where
  pure _ _ := .of_quiet (fun _ => rfl) fun _ _ _ => nofun
  bind ha hf := ha.bind hf
  fail _ place fault hfault := .of_fail place fun file heq => by
    subst heq
    exact hfault
  evaluate _ _ _ := .of_quiet (fun _ => rfl) fun _ _ _ => nofun
  kept _ _ _ := .of_quiet (fun _ => rfl) fun _ _ _ => nofun
  put _ _ _ := .onIndex _
  openMap _ := .onIndex _
  overlayAt _ _ := .onIndex _
  forget _ _ := .onIndex _
  below ha := ha

theorem endsWithReopening_walk {fetch : String → String → TreePath → Scope → Walk Mapping}
    (hf : ∀ directive reference path scope,
      (fetch directive reference path scope).EndsWithReopening library)
    (v : Value) (path : TreePath) (scope : Scope) :
    (walk s fetch v path scope).EndsWithReopening library :=
  @Congruence.of_walk s _ (congruence_endsWithReopening library s) fetch fetch hf v path scope

theorem endsWithReopening_importedMapping (directive reference : String) (path : TreePath)
    (v : Value) : (importedMapping directive reference path v).EndsWithReopening library := by
  cases v with
  | map | null => exact .of_quiet (fun _ => rfl) fun _ _ _ => nofun
  | _ => exact .of_fail path fun _ => nofun

/-- An import ends so if the walk of what it imports does. -/
theorem endsWithReopening_fetchBase_of {budget : Nat} {directive reference : String}
    {path : TreePath} {scope : Scope}
    (himported : ∀ document, (walkImported library s document directive reference path scope
      budget).EndsWithReopening library) :
    (fetchBase library s budget directive reference path scope).EndsWithReopening library := by
  intro p
  let request : Request := ⟨reference, p.origin, p.opened⟩
  let next : Progress := { p with requests := p.requests ++ [request] }
  rw [run_fetchBase]
  cases hdoc : library reference request.folder? with
  | error e =>
    have hnot := Request.not_reopens_of_error (r := request) hdoc
    exact ⟨[request], rfl, .cons hnot (.nil fun _ _ => nofun)⟩
  | ok document =>
    have hreopens := Request.reopens_iff (r := request) hdoc
    -- the document is from an open file, or it is entered and walked
    cases hopen : document.file.filter request.isOpen with
    | some file =>
      simp only [request] at hopen
      simp only [hopen]
      refine ⟨[request], rfl, .reopened (fun other => ?_) path⟩
      rw [hreopens other, hopen]
    | none =>
      -- what the imported document asks for comes behind the request for it
      obtain ⟨asked, hreq, hasked⟩ := himported document next
      have hnot : ∀ file, ¬ request.Reopens library file := by
        intro file
        rw [hreopens file, hopen]
        nofun
      simp only [request] at hopen
      simp only [hopen]
      refine ⟨request :: asked, ?_, .cons hnot hasked⟩
      rw [hreq, List.append_assoc]
      rfl

/-- **An import ends so, whatever the budget.** -/
theorem endsWithReopening_fetchBase (library : Library) (s : Surroundings) (budget : Nat)
    (directive reference : String) (path : TreePath) (scope : Scope) :
    (fetchBase library s budget directive reference path scope).EndsWithReopening library := by
  induction budget generalizing directive reference path scope with
  | zero => exact endsWithReopening_fetchBase_of fun document => .of_fail path fun _ => nofun
  | succ budget ih =>
    refine endsWithReopening_fetchBase_of fun document => ?_
    -- inside, imports have less of the budget left
    have hwalk := endsWithReopening_walk (s := s) ih document.content [] scope
    exact (hwalk.inside document.file).bind fun v =>
      endsWithReopening_importedMapping directive reference path v

/-- A whole run ends so. -/
theorem endsWithReopening_walkRoot (library : Library) (s : Surroundings) (budget : Nat)
    (document : Value) (scope : Scope) :
    (walkRoot library s budget document scope).EndsWithReopening library := by
  have hfetch := endsWithReopening_fetchBase library s budget
  refine (EndsWithReopening.onIndex _).bind fun _ => ?_
  refine (endsWithReopening_walk hfetch document [] scope).bind fun v => ?_
  exact (EndsWithReopening.onIndex _).bind fun _ =>
    (congruence_endsWithReopening library s).pure [] v

end Walk

/-! ### The open files in all of a run -/

namespace Visit

/-- The document of a node is not from a file that was open when it was entered. -/
theorem InOrder.not_same {v : Visit} (h : v.InOrder) {file : String} {outer : List (Option String)}
    (hdocuments : v.documents = some file :: outer) {other : String} (hother : some other ∈ outer) :
    FileName.same file other = false := by
  have hdistinct := h.files.distinct
  rw [h.opened_eq, hdocuments, List.reduceOption_cons_of_some, List.pairwise_cons] at hdistinct
  exact hdistinct.1 other (List.reduceOption_mem_iff.mpr hother)

theorem InOrder.folder?_request {v : Visit} (h : v.InOrder) (reference : String) :
    (v.request reference).folder? = v.documents.reduceOption.head?.bind FileName.folder? := by
  rw [← h.opened_eq, ← h.files.origin_eq]
  rfl

/-- Where no open document came from a file, a node asks relative to nothing. -/
theorem InOrder.folder?_request_eq_none {v : Visit} (h : v.InOrder)
    (hdocuments : v.documents.reduceOption = []) (reference : String) :
    (v.request reference).folder? = none := by
  rw [h.folder?_request, hdocuments]
  rfl

/-- A node asks relative to the folder of the innermost open file. -/
theorem InOrder.isParent_request {v : Visit} (h : v.InOrder) {innermost : String}
    {outer : List String} (hdocuments : v.documents.reduceOption = innermost :: outer)
    (reference : String) : FileName.IsParent innermost (v.request reference).folder? := by
  rw [h.folder?_request, hdocuments]
  exact FileName.isParent_folder? innermost

end Visit

/-- **No file is entered while it is open.**  Whatever is resolved, from a file or not, the files
are in order at every node that the run comes to, those open are the files of the documents around
the node, and the innermost document is from none of the others.  All that is asked for is asked
for by such a node, relative to the folder of the innermost open file, and relative to nothing if
there is no open file.  The run ends with a circular import of a file exactly if something asked
for is answered by it while it is open. -/
theorem walkRoot_filesInOrder (library : Library) (s : Surroundings) (budget : Nat)
    (document : Value) (scope : Scope) (file : Option String) (log : Log) :
    let start := Visit.ofDocument budget document scope file log
    let run := (walkRoot library s budget document scope).run (.start file log)
    (∀ v, Visit.Walked library s start v → v.InOrder ∧
      ∀ file outer, v.documents = some file :: outer →
        ∀ other, some other ∈ outer → FileName.same file other = false)
      ∧ (∀ r ∈ run.2.requests, FilesInOrder r.origin r.opened ∧
        ∃ v reference, Visit.Walked library s start v ∧ r = v.request reference
          ∧ (v.documents.reduceOption = [] → r.folder? = none)
          ∧ ∀ innermost outer, v.documents.reduceOption = innermost :: outer →
            FileName.IsParent innermost r.folder?)
      ∧ ∀ file, (∃ path, run.1 = .error ⟨path, .circularImport file⟩)
        ↔ ∃ r ∈ run.2.requests, r.Reopens library file := by
  intro start run
  have hstart : start.InOrder := Visit.inOrder_ofDocument budget document scope file log
  refine ⟨fun v hv => ?_, fun r hr => ?_, fun other => ?_⟩
  · have hv := hv.inOrder hstart
    exact ⟨hv, fun file outer hdocuments other => hv.not_same hdocuments⟩
  · have hrequests : run.2.requests = ((start.toWalk library s).run start.progress).2.requests :=
      requests_run_walkRoot library s budget document scope (.start file log)
    rw [hrequests] at hr
    -- nothing was asked for before the run, so each request is one of a node
    rcases Visit.asksOnly_walk start r hr with hr | ⟨v, reference, hv, rfl⟩
    · cases hr
    · have hin := hv.inOrder hstart
      exact ⟨hin.files, v, reference, hv, rfl, fun h => hin.folder?_request_eq_none h reference,
        fun _ _ h => hin.isParent_request h reference⟩
  · obtain ⟨asked, hasked, hends⟩ :=
      endsWithReopening_walkRoot library s budget document scope (.start file log)
    have hrequests : run.2.requests = asked := hasked
    rw [hrequests]
    exact hends other

/-- A file that imports another from its folder, which imports the first: that is asked for relative
to the folder of the second, and is open by then. -/
theorem walkRoot_filesInOrder_of_cycle :
    let library : Library := fun reference folder =>
      let file := FileName.join (folder.getD "") reference
      .ok ⟨some file, .map [("import", .str (if file = "/x/y/b" then "/x/a" else "y/b"))]⟩
    let s : Surroundings := ⟨.standard Range.halting, .standard, .keyless "fernet", Range.halting⟩
    let run := (walkRoot library s 5 (.map [("import", .str "y/b")]) []).run
      (.start (some "/x/a") [])
    run.2.requests = [⟨"y/b", some "/x/a", ["/x/a"]⟩, ⟨"/x/a", some "/x/y/b", ["/x/y/b", "/x/a"]⟩]
      ∧ run.2.requests.map Request.folder? = [some "/x", some "/x/y"]
      ∧ FileName.IsParent "/x/y/b" (some "/x/y")
      ∧ ∃ path, run.1 = .error ⟨path, .circularImport "/x/a"⟩ := by
  intro library s run
  have hrequests : run.2.requests
      = [⟨"y/b", some "/x/a", ["/x/a"]⟩, ⟨"/x/a", some "/x/y/b", ["/x/y/b", "/x/a"]⟩] := by
    -- the run itself, evaluated
    show ((walkRoot library s 5 (.map [("import", .str "y/b")]) []).run
      (.start (some "/x/a") [])).2.requests = _
    cbv
  have hfolders : run.2.requests.map Request.folder? = [some "/x", some "/x/y"] := by
    rw [hrequests]
    cbv
  have hreopens : Request.Reopens library "/x/a" ⟨"/x/a", some "/x/y/b", ["/x/y/b", "/x/a"]⟩ := by
    refine ⟨_, rfl, ?_⟩
    cbv
  obtain ⟨-, -, hcircular⟩ := walkRoot_filesInOrder library s 5 (.map [("import", .str "y/b")]) []
    (some "/x/a") []
  refine ⟨hrequests, hfolders, ?_, (hcircular "/x/a").mpr ⟨_, ?_, hreopens⟩⟩
  · have hfolder : FileName.folder? "/x/y/b" = some "/x/y" := by cbv
    rw [← hfolder]
    exact FileName.isParent_folder? "/x/y/b"
  · rw [hrequests]
    exact List.mem_cons_of_mem _ (List.mem_singleton_self _)

end ConfigTree
