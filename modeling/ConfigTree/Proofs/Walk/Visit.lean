import ConfigTree.Proofs.Walk.Import
import ConfigTree.Proofs.Walk.Layers
import Mathlib.Logic.Relation

/-!
# The nodes that a walk comes to

The walk of a node walks other nodes: items, own entries, a base that is written in
place, the values and instances of a loop, updates, and documents that are imported.
Here each of these is told with the progress at which its walk starts, so that one can
speak of every node that a run comes to, whether the run goes well in the end or not.

On the way from a node to one that it walks, a document is entered or none is; apart
from that the files are left as they are.  So the open files are at every node those of
the documents around it.

## Main definitions

* `Visit` — a node with the documents around it and the progress at the start of its walk.
* `Visit.Child` — the walk of the one node walks the other.
* `FilesInOrder` — no file is open twice, and the innermost one is that of the document.

## Main results

* `Visit.Child.inOrder` — what a step keeps.
* `Visit.Walked.inOrder` — what a run keeps.
-/

namespace ConfigTree

open Walk

/-! ### Open files -/

/-- No file is open twice, and the innermost open file is that of the document being walked; if no
file is open, the document came from none. -/
structure FilesInOrder (origin : Option String) (opened : List String) : Prop where
  /-- The document being walked came from the innermost open file. -/
  origin_eq : origin = opened.head?
  /-- No file is open twice. -/
  distinct : opened.Pairwise fun a b => FileName.same a b = false

namespace FilesInOrder

theorem start (file : Option String) : FilesInOrder file file.toList := by
  cases file with
  | none => exact ⟨rfl, .nil⟩
  | some f => exact ⟨rfl, List.pairwise_singleton _ f⟩

/-- Another document is entered whose file, if it has one, is not open. -/
theorem enter {p : Progress} (h : FilesInOrder p.origin p.opened) {file : Option String}
    (hnew : file.filter (fun f => p.opened.any (FileName.same f)) = none) :
    FilesInOrder (p.enter file).origin (p.enter file).opened := by
  cases file with
  | none => exact h
  | some f =>
    refine ⟨rfl, List.pairwise_cons.mpr ⟨?_, h.distinct⟩⟩
    have hclosed : p.opened.any (FileName.same f) = false := by
      simpa [Option.filter] using hnew
    simpa using hclosed

end FilesInOrder

/-! ### Visits -/

/-- The scope in a loop over values. -/
def Scope.inLoop (scope : Scope) (values : List Value) : Scope :=
  scope.enter .loop [("values", .list values)]

/-- The scope in the instance of a loop over values for the one at a position. -/
def Scope.atItem (scope : Scope) (values : List Value) (item : Value) (i : Nat) : Scope :=
  (scope.inLoop values).enter .loop [("item", item), ("index", .int (Int64.ofNat i))]

/-- A node at the start of its walk. -/
structure Visit where
  /-- How deep imports may be nested from here. -/
  budget : Nat
  /-- The documents around the node, the innermost first: the file of each, if it came from
  one. -/
  documents : List (Option String)
  /-- The node. -/
  node : Value
  /-- Its place in the innermost document. -/
  path : TreePath
  /-- What expressions in it can use. -/
  scope : Scope
  /-- What has been done before it. -/
  progress : Progress

namespace Visit

/-- The start of a run: a document, from a file or not. -/
def ofDocument (budget : Nat) (document : Value) (scope : Scope) (file : Option String)
    (log : Log) : Visit := ⟨budget, [file], document, [], scope, .start file log⟩

/-- What has been done when the mapping at the node is opened. -/
def opening (v : Visit) : Progress := v.progress.withIndex (v.progress.index.openMap v.path)

/-- The request that the node makes for a reference. -/
def request (v : Visit) (reference : String) : Request :=
  ⟨reference, v.progress.origin, v.progress.opened⟩

/-- What has been done when the answer to a request of the node comes. -/
def asking (v : Visit) (reference : String) : Progress :=
  { v.opening with requests := v.progress.requests ++ [v.request reference] }

variable (library : Library) (s : Surroundings)

/-- The walk of the one node walks the other. -/
inductive Child : Visit → Visit → Prop
  /-- An item, after those before it. -/
  | item {v : Visit} {front after values : List Value} {item : Value} {p : Progress} :
    v.node = .list (front ++ item :: after) →
    (walkItems s (fetchBase library s v.budget) front v.path v.scope 0).run
      (v.progress.withIndex (v.progress.index.put v.path (.list []))) = (.ok values, p) →
    Child v { v with node := item, path := v.path.item front.length, progress := p }
  /-- A base that is written in place. -/
  | inline {v : Visit} {entries inline : Mapping} {key : String} :
    v.node = .map entries → Directive.conflict? entries = none →
    Directive.extend.entry? entries = some (key, .map inline) →
    Child v { v with node := .map inline, progress := v.opening }
  /-- A document that is imported and whose file, if it has one, is not open. -/
  | document {v : Visit} {entries : Mapping} {key reference : String} {document : Loaded}
    {budget : Nat} :
    v.node = .map entries → Directive.conflict? entries = none →
    Directive.fetch.entry? entries = some (key, .str reference) →
    library reference (v.request reference).folder? = .ok document →
    document.file.filter (v.request reference).isOpen = none → v.budget = budget + 1 →
    Child v { v with
      budget := budget
      documents := document.file :: v.documents
      node := document.content
      path := []
      progress := (v.asking reference).enter document.file }
  /-- The values of a loop, if they are a list, after the base. -/
  | values {v : Visit} {entries base : Mapping} {p : Progress} {key : String}
    {fields : Mapping} {loop : Loop} {items : List Value} :
    v.node = .map entries → Directive.conflict? entries = none →
    (walkBase s (fetchBase library s v.budget) entries v.path v.scope).run v.opening
      = (.ok base, p) →
    Directive.loop.entry? entries = some (key, .map fields) →
    Loop.ofValue (.map fields) = .ok loop → loop.values = .sequence items →
    Child v { v with
      node := .list items
      path := v.path.entry Surroundings.scratchKey
      progress := p.withIndex (p.index.overlayAt v.path base) }
  /-- An instance of a loop, after its values and the instances before it. -/
  | template {v : Visit} {entries base made : Mapping} {p q r t : Progress} {key : String}
    {fields : Mapping} {loop : Loop} {front after : List Value} {item : Value} {k : String} :
    v.node = .map entries → Directive.conflict? entries = none →
    (walkBase s (fetchBase library s v.budget) entries v.path v.scope).run v.opening
      = (.ok base, p) →
    Directive.loop.entry? entries = some (key, .map fields) →
    Loop.ofValue (.map fields) = .ok loop →
    (s.loopValues (walkEntry s (fetchBase library s v.budget) fields "values") loop.values v.path
      v.scope).run (p.withIndex (p.index.overlayAt v.path base))
      = (.ok (front ++ item :: after), q) →
    (s.instances (walkEntry s (fetchBase library s v.budget) fields "template") loop.key v.path
      (v.scope.inLoop (front ++ item :: after)) front 0 []).run q = (.ok made, r) →
    (s.loopKey loop.key front.length v.path
      (v.scope.atItem (front ++ item :: after) item front.length)).run r = (.ok k, t) →
    made.has k = false →
    Child v { v with
      node := .map loop.template
      path := v.path.entry k
      scope := v.scope.atItem (front ++ item :: after) item front.length
      progress := t }
  /-- An own entry, after the base, the loop and the own entries before it. -/
  | own {v : Visit} {front after made result : List (String × Value)} {key : String}
    {node : Value} {p q : Progress} :
    v.node = .map (front ++ (key, node) :: after) →
    Directive.conflict? (front ++ (key, node) :: after) = none → Directive.isKey key = false →
    (walkMade s (fetchBase library s v.budget) (front ++ (key, node) :: after) v.path
      v.scope).run v.progress = (.ok made, p) →
    (walkOwn s (fetchBase library s v.budget) front v.path v.scope made).run p
      = (.ok result, q) →
    Child v { v with node := node, path := v.path.entry key, progress := q }
  /-- An update, after all own entries and the updates before it. -/
  | update {v : Visit} {entries made own result : Mapping} {key target : String}
    {front after : List (String × Value)} {node : Value} {p q r : Progress} :
    v.node = .map entries → Directive.conflict? entries = none →
    (walkMade s (fetchBase library s v.budget) entries v.path v.scope).run v.progress
      = (.ok made, p) →
    (walkOwn s (fetchBase library s v.budget) entries v.path v.scope made).run p
      = (.ok own, q) →
    Directive.update.entry? entries = some (key, .map (front ++ (target, node) :: after)) →
    (walkTargetEntries s (fetchBase library s v.budget) front v.path v.scope own).run q
      = (.ok result, r) →
    Child v { v with node := node, path := v.path.dotted target, progress := r }

/-- The walk of the one node comes to the other, which it walks itself or which a node walks that
it comes to. -/
def Walked : Visit → Visit → Prop := Relation.ReflTransGen (Child library s)

/-- The files are in order at the node, and those open are the files of the documents around
it. -/
structure InOrder (v : Visit) : Prop where
  /-- The open files are those of the documents around the node. -/
  opened_eq : v.progress.opened = v.documents.reduceOption
  /-- They are in order. -/
  files : FilesInOrder v.progress.origin v.progress.opened

variable {library s} {v w : Visit}

/-- The files of a node of the same document are the same. -/
theorem InOrder.of_files_eq (h : v.InOrder) (hd : w.documents = v.documents)
    (hf : w.progress.origin = v.progress.origin ∧ w.progress.opened = v.progress.opened) :
    w.InOrder where
  opened_eq := by rw [hf.2, hd, h.opened_eq]
  files := by
    rw [hf.1, hf.2]
    exact h.files

/-- **What a step keeps.** -/
theorem Child.inOrder (hc : Child library s v w) (h : v.InOrder) : w.InOrder := by
  have hkeeps := closed_keeps s
  have hfetch := fun b => (closed_keeps s).of_fetchBase library b
  cases hc with
  | item hnode hitems =>
    have hp := (hkeeps.of_walkItems (hfetch _) _ _ _ _).files_eq hitems
    exact h.of_files_eq rfl hp
  | inline => exact h.of_files_eq rfl ⟨rfl, rfl⟩
  | @document _ _ reference document _ hnode hconflict hentry hdoc hclosed _ =>
    refine ⟨?_, ?_⟩
    -- a document without a file adds nothing to either side
    · show document.file.toList ++ v.progress.opened = _
      rw [h.opened_eq]
      cases document.file <;> rfl
    -- it is not open, so it is from none of the files that are
    · exact FilesInOrder.enter (p := v.asking reference) h.files hclosed
  -- what was walked in between has closed all that it opened
  | values hnode hconflict hbase =>
    have hp := (hkeeps.of_walkBase (hfetch _) _ _ _).files_eq hbase
    exact h.of_files_eq rfl hp
  | template hnode hconflict hbase hentry hloop hvalues hmade hkey =>
    have hp := (hkeeps.of_walkBase (hfetch _) _ _ _).files_eq hbase
    have hq := (hkeeps.of_loopValues (hkeeps.of_walkEntry (hfetch _) _ _) _ _ _).files_eq hvalues
    have hr := (hkeeps.of_instances (hkeeps.of_walkEntry (hfetch _) _ _) _ _ _ _ _ _).files_eq hmade
    have ht := (hkeeps.of_loopKey _ _ _ _).files_eq hkey
    refine h.of_files_eq rfl ⟨?_, ?_⟩
    · exact ht.1.trans (hr.1.trans (hq.1.trans hp.1))
    · exact ht.2.trans (hr.2.trans (hq.2.trans hp.2))
  | own hnode hconflict hown hmade hfront =>
    have hp := (hkeeps.of_walkMade (hfetch _) _ _ _).files_eq hmade
    have hq := (hkeeps.of_walkOwn (hfetch _) _ _ _ _).files_eq hfront
    exact h.of_files_eq rfl ⟨hq.1.trans hp.1, hq.2.trans hp.2⟩
  | update hnode hconflict hmade hown hentry hfront =>
    have hp := (hkeeps.of_walkMade (hfetch _) _ _ _).files_eq hmade
    have hq := (hkeeps.of_walkOwn (hfetch _) _ _ _ _).files_eq hown
    have hr := (hkeeps.of_walkTargetEntries (hfetch _) _ _ _ _).files_eq hfront
    refine h.of_files_eq rfl ⟨?_, ?_⟩
    · exact hr.1.trans (hq.1.trans hp.1)
    · exact hr.2.trans (hq.2.trans hp.2)

/-- **What a run keeps.** -/
theorem Walked.inOrder (hw : Walked library s v w) (h : v.InOrder) : w.InOrder := by
  induction hw with
  | refl => exact h
  | tail _ hc ih => exact hc.inOrder ih

theorem inOrder_ofDocument (budget : Nat) (document : Value) (scope : Scope)
    (file : Option String) (log : Log) : (ofDocument budget document scope file log).InOrder where
  opened_eq := by cases file <;> rfl
  files := .start file

end Visit

end ConfigTree
