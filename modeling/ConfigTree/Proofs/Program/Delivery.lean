import ConfigTree.Cipher.Fernet
import ConfigTree.Program.Delivery
import ConfigTree.Proofs.Outcome
import Mathlib

/-!
# All or nothing

A run goes through its files one after the other, and writes only when it is through with all of
them, each has a document, and all documents together can be rendered.  Otherwise it writes
nothing: in the tolerant posture it goes through all files and tells how many have no document, in
the strict one it ends with the first file that fails, as if no others had been given.  Where the
machine stops, the run ends too.

What a run does is seen in a record that an outlet keeps: the lines that are told, and what is
written where.  What it should do is said of each file by itself, without a harvest.

## Main definitions

* `DocumentFormat.Renders` — a text is what documents are written as.
* `Deed`, `recorder`, `Options.follow` — what is told and written, on record.
* `Evaluator.settled`, `Evaluator.Halts` — what the file at a position comes to, by itself.
* `Evaluator.ResolvesTo`, `Evaluator.told` — files with their documents, and what is told of them.

## Main results

* `DocumentFormat.render_eq_ok_iff` — what is rendered.
* `Report.gather_append` — any number of files that do not end the run.
* `Report.ofFiles_eq`, `Report.ofFiles_of_error` — a whole run, through all files or not.
* `wrote_iff` — when anything is written.
* `deliver_allOrNothing` — **output is all or nothing**.
-/

namespace ConfigTree

/-! ### Rendering -/

/-- A text is what documents are written as: in YAML one after the other with a line of dashes
between them, in JSON a single one as it is and any other number as a list, with a line end behind.
-/
inductive DocumentFormat.Renders (printer : Printer) : DocumentFormat → List Value → String → Prop
  | yaml {documents : List Value} {parts : List String} :
    List.Forall₂ (fun v part => printer.yaml v = .ok part) documents parts →
    Renders printer .yaml documents ("---\n".intercalate parts)
  | single {document : Value} {text : String} : printer.json document = .ok text →
    Renders printer .json [document] (text ++ "\n")
  | several {documents : List Value} {text : String} : documents.length ≠ 1 →
    printer.json (.list documents) = .ok text → Renders printer .json documents (text ++ "\n")

namespace DocumentFormat

variable {printer : Printer} {documents : List Value} {text : String}

theorem render_json_of_length (h : documents.length ≠ 1) :
    render .json printer documents = (do return (← printer.json (.list documents)) ++ "\n") := by
  match documents with
  | [] => rfl
  | [document] => exact absurd rfl h
  | _ :: _ :: _ => rfl

/-- **What is rendered** is what the documents are written as. -/
theorem render_eq_ok_iff {format : DocumentFormat} :
    format.render printer documents = .ok text ↔ format.Renders printer documents text := by
  constructor
  · intro h
    cases format with
    | yaml =>
      obtain ⟨parts, hparts, htext⟩ := bind_eq_ok_iff.1 h
      cases htext
      exact .yaml (forall₂_of_mapM_eq_ok hparts)
    | json =>
      by_cases hlength : documents.length = 1
      · obtain ⟨document, rfl⟩ := List.length_eq_one_iff.1 hlength
        obtain ⟨text, hjson, htext⟩ := bind_eq_ok_iff.1 h
        cases htext
        exact .single hjson
      -- no document, or several: then they are written as one list
      · rw [render_json_of_length hlength] at h
        obtain ⟨text, hjson, htext⟩ := bind_eq_ok_iff.1 h
        cases htext
        exact .several hlength hjson
  · intro h
    cases h with
    | yaml hparts =>
      rw [render, mapM_eq_ok_of_forall₂ hparts]
      rfl
    | single hjson =>
      rw [render, hjson]
      rfl
    | several hlength hjson =>
      rw [render_json_of_length hlength, hjson]
      rfl

/-- Documents are rendered, or in some words it is said why not. -/
theorem exists_render_eq_error {format : DocumentFormat}
    (h : ∀ text, ¬ format.Renders printer documents text) :
    ∃ words, format.render printer documents = .error words := by
  cases hrender : format.render printer documents with
  | ok text => exact absurd (render_eq_ok_iff.1 hrender) (h text)
  | error words => exact ⟨words, rfl⟩

end DocumentFormat

/-! ### Files in order -/

/-- What the files of a run come to, each at its position. -/
def Evaluator.fileRuns (e : Evaluator) (d : Disk) (files : List (String × Nat)) : List FileRun :=
  files.map fun f => e.fileRun d f.2 f.1

namespace Report

variable {e : Evaluator} {d : Disk}

/-- A file that does not end the run has a document or is absent. -/
theorem count_of_ok {r : FileRun} (hr : ∃ v?, r.outcome = .ok v?) :
    r.document?.toList.length + r.isAbsent.toNat = 1 := by
  obtain ⟨v?, hv⟩ := hr
  rw [FileRun.document?, FileRun.isAbsent, hv]
  cases v? <;> rfl

theorem position_add {h : Harvest} {r : FileRun} (hr : ∃ v?, r.outcome = .ok v?) :
    (h.add r).documents.length + (h.add r).unresolved = h.documents.length + h.unresolved + 1 := by
  have hcount := count_of_ok hr
  simp only [Harvest.add, List.length_append]
  omega

/-- **Files that do not end the run**: each adds to the harvest in its turn.  The position of the
next one is told by the harvest, and this is what each step keeps. -/
theorem gather_append {h : Harvest} {n : Nat} {front : List String}
    (hn : h.documents.length + h.unresolved = n)
    (hok : ∀ r ∈ e.fileRuns d (front.zipIdx n), ∃ v?, r.outcome = .ok v?) (rest : List String) :
    gather e d h (front ++ rest)
      = gather e d ((e.fileRuns d (front.zipIdx n)).foldl Harvest.add h) rest := by
  induction front generalizing h n with
  | nil => rfl
  | cons file front ih =>
    rw [List.zipIdx_cons] at hok ⊢
    obtain ⟨hfile, hfront⟩ := List.forall_mem_cons.1 hok
    have hnext := (position_add hfile).trans (congrArg (· + 1) hn)
    obtain ⟨v?, hv⟩ := hfile
    rw [List.cons_append, gather, hn]
    simp only [hv]
    exact ih hnext hfront

/-! ### All files -/

theorem filterMap_document_cons (r : FileRun) (rs : List FileRun) :
    (r :: rs).filterMap FileRun.document?
      = r.document?.toList ++ rs.filterMap FileRun.document? := by
  rw [List.filterMap_cons]
  cases r.document? <;> rfl

theorem countP_isAbsent_cons (r : FileRun) (rs : List FileRun) :
    (r :: rs).countP FileRun.isAbsent = r.isAbsent.toNat + rs.countP FileRun.isAbsent := by
  rw [List.countP_cons, Nat.add_comm]
  cases r.isAbsent <;> rfl

/-- What some files have come to, all of them together. -/
theorem foldl_add (h : Harvest) (rs : List FileRun) :
    rs.foldl Harvest.add h
      = ⟨h.lines ++ rs.flatMap FileRun.lines, h.documents ++ rs.filterMap FileRun.document?,
        h.unresolved + rs.countP FileRun.isAbsent, h.requests ++ rs.flatMap FileRun.requests⟩ := by
  induction rs generalizing h with
  | nil => simp
  | cons r rs ih =>
    rw [List.foldl_cons, ih, filterMap_document_cons, countP_isAbsent_cons]
    simp [Harvest.add, Nat.add_assoc]

/-- The files from the first one on, as long as none ends the run. -/
theorem gather_start {front : List String}
    (hok : ∀ r ∈ e.fileRuns d front.zipIdx, ∃ v?, r.outcome = .ok v?) (rest : List String) :
    gather e d ⟨[], [], 0, []⟩ (front ++ rest)
      = gather e d ⟨(e.fileRuns d front.zipIdx).flatMap FileRun.lines,
          (e.fileRuns d front.zipIdx).filterMap FileRun.document?,
          (e.fileRuns d front.zipIdx).countP FileRun.isAbsent,
          (e.fileRuns d front.zipIdx).flatMap FileRun.requests⟩ rest := by
  have hn : (Harvest.mk [] [] 0 []).documents.length + (Harvest.mk [] [] 0 []).unresolved = 0 :=
    rfl
  rw [gather_append hn hok, foldl_add, List.nil_append, List.nil_append, List.nil_append,
    Nat.zero_add]

/-- **A run through all files**: there is output if all of them have documents, and the documents
can be rendered. -/
theorem ofFiles_eq (printer : Printer) (format : DocumentFormat) {files : List String}
    (hok : ∀ r ∈ e.fileRuns d files.zipIdx, ∃ v?, r.outcome = .ok v?) :
    ofFiles e d printer format files
      = ⟨(e.fileRuns d files.zipIdx).flatMap FileRun.lines,
        if (e.fileRuns d files.zipIdx).countP FileRun.isAbsent = 0 then
          (format.render printer ((e.fileRuns d files.zipIdx).filterMap FileRun.document?)).mapError
            (.rendering format)
        else .error (.unresolved ((e.fileRuns d files.zipIdx).countP FileRun.isAbsent)),
        (e.fileRuns d files.zipIdx).flatMap FileRun.requests⟩ := by
  have hgather := gather_start hok []
  rw [List.append_nil] at hgather
  rw [ofFiles, hgather]
  rfl

/-- Files that do not end the run have documents or are absent, all in all. -/
theorem length_of_ok {rs : List FileRun} (hok : ∀ r ∈ rs, ∃ v?, r.outcome = .ok v?) :
    (rs.filterMap FileRun.document?).length + rs.countP FileRun.isAbsent = rs.length := by
  induction rs with
  | nil => rfl
  | cons r rs ih =>
    obtain ⟨hr, hrest⟩ := List.forall_mem_cons.1 hok
    have hcount := count_of_ok hr
    have hnext := ih hrest
    rw [filterMap_document_cons, countP_isAbsent_cons, List.length_append, List.length_cons]
    omega

/-- **A run that a file ends**: those after it are as if they had not been given. -/
theorem ofFiles_of_error (printer : Printer) (format : DocumentFormat) {front : List String}
    {file : String} {fault : ProgramFault}
    (hok : ∀ r ∈ e.fileRuns d front.zipIdx, ∃ v?, r.outcome = .ok v?)
    (hfile : (e.fileRun d front.length file).outcome = .error fault) (rest : List String) :
    ofFiles e d printer format (front ++ file :: rest)
      = ⟨(e.fileRuns d front.zipIdx ++ [e.fileRun d front.length file]).flatMap FileRun.lines,
        .error fault,
        (e.fileRuns d front.zipIdx ++ [e.fileRun d front.length file]).flatMap
          FileRun.requests⟩ := by
  have hposition : ((e.fileRuns d front.zipIdx).filterMap FileRun.document?).length
      + (e.fileRuns d front.zipIdx).countP FileRun.isAbsent = front.length := by
    rw [length_of_ok hok, Evaluator.fileRuns, List.length_map, List.length_zipIdx]
  rw [ofFiles, gather_start hok, gather, hposition]
  simp only [hfile, List.flatMap_append, List.flatMap_singleton]
  rfl

end Report

/-! ### Deeds -/

/-- What is told or written. -/
inductive Deed
  /-- A line is told. -/
  | told (line : String)
  /-- The output is written to a file, or to the screen. -/
  | wrote (file? : Option String) (text : String)

/-- The outlet that keeps a record; writing succeeds or fails as a `sink` has it. -/
def recorder (sink : Option String → String → Except IoFault Unit) :
    Outlet (StateM (List Deed)) where
  tell line := modify (· ++ [.told line])
  write file? text := do
    modify (· ++ [.wrote file? text])
    return sink file? text

/-- What a run comes to, with the record of what is told and written in it. -/
def Options.follow (o : Options) (d : Disk) (sealer : Sealer) (printer : Printer)
    (sink : Option String → String → Except IoFault Unit) : Except RunFault Unit × List Deed :=
  ((o.report d sealer printer).deliver (recorder sink) o.output).run []

section Following

variable (sink : Option String → String → Except IoFault Unit)

theorem run_tell (lines : List String) (deeds : List Deed) :
    (lines.forM (recorder sink).tell).run deeds = ((), deeds ++ lines.map .told) := by
  induction lines generalizing deeds with
  | nil =>
    rw [List.map_nil, List.append_nil]
    rfl
  | cons line lines ih =>
    -- the first line is told before the others, behind what was done already
    have hfirst : ((line :: lines).forM (recorder sink).tell).run deeds
        = (lines.forM (recorder sink).tell).run (deeds ++ [.told line]) := rfl
    rw [hfirst, ih, List.map_cons, List.append_assoc, List.singleton_append]

/-- All lines are told, and then the output is written if there is any. -/
theorem run_deliver (r : Report) (file? : Option String) :
    (r.deliver (recorder sink) file?).run []
      = match r.outcome with
        | .error fault => (.error (.program fault), r.lines.map .told)
        | .ok text =>
          ((sink file? text).mapError (RunFault.ofWrite file?),
            r.lines.map .told ++ [.wrote file? text]) := by
  have htell := run_tell sink r.lines []
  rw [List.nil_append] at htell
  rw [Report.deliver, StateT.run_bind, htell]
  cases r.outcome <;> rfl

/-- Something is written exactly if there is output. -/
theorem wrote_iff_outcome (r : Report) (file? : Option String) :
    (∃ file text, Deed.wrote file text ∈ ((r.deliver (recorder sink) file?).run []).2)
      ↔ ∃ text, r.outcome = .ok text := by
  rw [run_deliver]
  cases r.outcome with
  | error fault => simp
  | ok text => simp

end Following

/-! ### Files by themselves -/

namespace Evaluator

variable (e : Evaluator) (d : Disk)

/-- What the file at a position of a run comes to, and what is logged of it. -/
def settled (f : String × Nat) : Except Failure (Option Value) × Log :=
  (e.forFile f.2).runFile d f.1 []

/-- The machine stops in the file at a position of a run. -/
def Halts (f : String × Nat) : Prop :=
  hasHalted (e.settled d f).1 (e.settled d f).2 = true

/-- The file at a position of a run has no document, which does not end the run. -/
def lacks (f : String × Nat) : Bool :=
  match (e.settled d f).1 with
  | .ok none => true
  | _ => false

/-- The files are resolved to these documents. -/
def ResolvesTo (files : List (String × Nat)) (values : List Value) : Prop :=
  List.Forall₂ (fun f v => ¬ e.Halts d f ∧ (e.settled d f).1 = .ok (some v)) files values

/-- What is told of files: all entries of their logs in order, each behind the name of its file. -/
def told (files : List (String × Nat)) : List Deed :=
  files.flatMap fun f =>
    (e.settled d f).2.map fun entry => .told (f.1 ++ ": " ++ entry.message)

variable {e d}

@[simp] theorem told_nil : e.told d [] = [] := rfl

@[simp] theorem told_cons (f : String × Nat) (files : List (String × Nat)) :
    e.told d (f :: files)
      = (e.settled d f).2.map (fun entry => .told (f.1 ++ ": " ++ entry.message))
        ++ e.told d files := rfl

@[simp] theorem told_append (files files' : List (String × Nat)) :
    e.told d (files ++ files') = e.told d files ++ e.told d files' :=
  List.flatMap_append

theorem settled_eq (f : String × Nat) :
    e.settled d f = e.config.posture.settle (Failure.asDocument f.1)
      ((e.forFile f.2).resolveFile d f.1 []).1 ((e.forFile f.2).resolveFile d f.1 []).2.1 := rfl

/-- A file in which the machine stops ends the run, and nothing is told of it. -/
theorem fileRun_of_halts {f : String × Nat} (h : e.Halts d f) :
    e.fileRun d f.2 f.1
      = ⟨f.1, .error .halted, [], ((e.forFile f.2).resolveFile d f.1 []).2.2⟩ :=
  if_pos h

/-- Any other file comes to what it comes to by itself. -/
theorem fileRun_of_not_halts {f : String × Nat} (h : ¬ e.Halts d f) :
    e.fileRun d f.2 f.1
      = ⟨f.1, (e.settled d f).1.mapError .document, (e.settled d f).2,
        ((e.forFile f.2).resolveFile d f.1 []).2.2⟩ :=
  if_neg h

theorem isAbsent_fileRun {f : String × Nat} (h : ¬ e.Halts d f) :
    (e.fileRun d f.2 f.1).isAbsent = e.lacks d f := by
  rw [fileRun_of_not_halts h, FileRun.isAbsent, lacks]
  rcases (e.settled d f).1 with cause | v?
  · rfl
  · cases v? <;> rfl

/-- A file that has a document by itself has it in the run, and it is in no other way that a file of
a run has one. -/
theorem outcome_fileRun_eq_some_iff {f : String × Nat} {v : Value} :
    (e.fileRun d f.2 f.1).outcome = .ok (some v)
      ↔ ¬ e.Halts d f ∧ (e.settled d f).1 = .ok (some v) := by
  by_cases h : e.Halts d f
  · simp [fileRun_of_halts h, h]
  · rw [fileRun_of_not_halts h]
    simp only [h, not_false_eq_true, true_and]
    exact mapError_eq_ok_iff

/-- What the lines of a run tell, if the machine stops in none of its files. -/
theorem map_lines_fileRuns {files : List (String × Nat)} (h : ∀ f ∈ files, ¬ e.Halts d f) :
    ((e.fileRuns d files).flatMap FileRun.lines).map .told = e.told d files := by
  induction files with
  | nil => rfl
  | cons f files ih =>
    obtain ⟨hf, hfiles⟩ := List.forall_mem_cons.1 h
    have hlines : (e.fileRun d f.2 f.1).lines.map Deed.told
        = (e.settled d f).2.map fun entry => .told (f.1 ++ ": " ++ entry.message) := by
      rw [fileRun_of_not_halts hf, FileRun.lines, List.map_map]
      rfl
    rw [fileRuns, List.map_cons, List.flatMap_cons, List.map_append, hlines, told_cons]
    exact congrArg _ (ih hfiles)

/-! ### Postures -/

/-- In the tolerant posture no file fails by itself. -/
theorem settled_of_tolerant (h : e.config.posture = .tolerant) (f : String × Nat) :
    ∃ v?, (e.settled d f).1 = .ok v? := by
  rw [settled_eq, h]
  obtain ⟨outcome, log, requests⟩ := (e.forFile f.2).resolveFile d f.1 []
  -- a failure becomes an absent document, and only the log keeps it
  cases outcome with
  | error cause => exact ⟨none, rfl⟩
  | ok v => exact ⟨some v, rfl⟩

/-- In the strict posture every file has a document or fails. -/
theorem settled_of_strict (h : e.config.posture = .strict) (f : String × Nat) :
    (e.settled d f).1 ≠ .ok none := by
  rw [settled_eq, h]
  obtain ⟨outcome, log, requests⟩ := (e.forFile f.2).resolveFile d f.1 []
  -- a failure stays one, so that a file without a document is always a failure
  cases outcome <;> simp [Posture.settle]

namespace ResolvesTo

variable {files : List (String × Nat)} {values : List Value}

theorem not_halts (h : e.ResolvesTo d files values) : ∀ f ∈ files, ¬ e.Halts d f := by
  induction h with
  | nil => exact List.forall_mem_nil _
  | cons hf _ ih => exact List.forall_mem_cons.2 ⟨hf.1, ih⟩

/-- If the files have these documents, then these are the documents of the harvest. -/
theorem fileRuns (h : e.ResolvesTo d files values) :
    (∀ r ∈ e.fileRuns d files, ∃ v?, r.outcome = .ok v?)
      ∧ (e.fileRuns d files).countP FileRun.isAbsent = 0
      ∧ (e.fileRuns d files).filterMap FileRun.document? = values := by
  induction h with
  | nil => simp [Evaluator.fileRuns]
  | @cons f v files values hf _ ih =>
    have hv : (e.fileRun d f.2 f.1).outcome = .ok (some v) := outcome_fileRun_eq_some_iff.2 hf
    -- it is counted as resolved and its document goes in front of those of the rest
    obtain ⟨hok, habsent, hdocuments⟩ := ih
    rw [Evaluator.fileRuns, List.map_cons]
    refine ⟨List.forall_mem_cons.2 ⟨⟨some v, hv⟩, hok⟩, ?_, ?_⟩
    · rw [Report.countP_isAbsent_cons, FileRun.isAbsent, hv]
      exact (Nat.zero_add _).trans habsent
    · rw [Report.filterMap_document_cons, FileRun.document?, hv]
      exact congrArg (v :: ·) hdocuments

end ResolvesTo

/-- Files of which none ends the run and none is absent are resolved, to whatever it is. -/
theorem exists_resolvesTo {files : List (String × Nat)}
    (h : ∀ r ∈ e.fileRuns d files, ∃ v, r.outcome = .ok (some v)) :
    ∃ values, e.ResolvesTo d files values := by
  induction files with
  | nil => exact ⟨[], .nil⟩
  | cons f files ih =>
    obtain ⟨⟨v, hv⟩, hfiles⟩ := List.forall_mem_cons.1 h
    obtain ⟨values, hvalues⟩ := ih hfiles
    exact ⟨v :: values, .cons (outcome_fileRun_eq_some_iff.1 hv) hvalues⟩

/-- If some file ends the run, there is a first one that does. -/
theorem exists_error_of_not_ok {n : Nat} {files : List String}
    (h : ¬ ∀ r ∈ e.fileRuns d (files.zipIdx n), ∃ v?, r.outcome = .ok v?) :
    ∃ front file rest fault, files = front ++ file :: rest
      ∧ (∀ r ∈ e.fileRuns d (front.zipIdx n), ∃ v?, r.outcome = .ok v?)
      ∧ (e.fileRun d (n + front.length) file).outcome = .error fault := by
  -- on the files, with the position of the first one free
  induction files generalizing n with
  | nil => exact absurd (List.forall_mem_nil _) h
  | cons file files ih =>
    cases hfile : (e.fileRun d n file).outcome with
    -- this one ends the run; if it does not, look behind it
    | error fault => exact ⟨[], file, files, fault, rfl, List.forall_mem_nil _, hfile⟩
    | ok v? =>
      rw [List.zipIdx_cons, Evaluator.fileRuns, List.map_cons, List.forall_mem_cons] at h
      obtain ⟨front, last, rest, fault, rfl, hfront, hlast⟩ :=
        ih fun hrest => h ⟨⟨v?, hfile⟩, hrest⟩
      refine ⟨file :: front, last, rest, fault, rfl, ?_, ?_⟩
      · exact List.forall_mem_cons.2 ⟨⟨v?, hfile⟩, hfront⟩
      · rw [List.length_cons, Nat.add_comm front.length, ← Nat.add_assoc]
        exact hlast

end Evaluator

/-! ### All or nothing -/

section Runs

variable {sink : Option String → String → Except IoFault Unit} {o : Options} {d : Disk}
  {sealer : Sealer} {printer : Printer} {values : List Value}

theorem report_eq (hkey : o.generateKey = false) :
    o.report d sealer printer
      = Report.ofFiles (.onDisk o.config d sealer) d printer o.format o.files := by
  rw [Options.report, if_neg (by rw [hkey]; exact Bool.false_ne_true)]

/-- A run with all its documents comes to what becomes of rendering them. -/
theorem follow_of_resolvesTo (hkey : o.generateKey = false)
    (h : (Evaluator.onDisk o.config d sealer).ResolvesTo d o.files.zipIdx values) :
    o.follow d sealer printer sink
      = match o.format.render printer values with
        | .error words => (.error (.program (.rendering o.format words)),
            (Evaluator.onDisk o.config d sealer).told d o.files.zipIdx)
        | .ok text => ((sink o.output text).mapError (RunFault.ofWrite o.output),
            (Evaluator.onDisk o.config d sealer).told d o.files.zipIdx
              ++ [.wrote o.output text]) := by
  obtain ⟨hok, habsent, hdocuments⟩ := h.fileRuns
  rw [Options.follow, run_deliver, report_eq hkey, Report.ofFiles_eq _ _ hok, if_pos habsent,
    hdocuments, ← Evaluator.map_lines_fileRuns h.not_halts]
  cases o.format.render printer values <;> rfl

/-- A run that no file ends, and that lacks documents. -/
theorem follow_of_lacks (hkey : o.generateKey = false)
    (hok : ∀ f ∈ o.files.zipIdx, ∃ v?,
      ((Evaluator.onDisk o.config d sealer).settled d f).1 = .ok v?)
    (hruns : ∀ f ∈ o.files.zipIdx, ¬ (Evaluator.onDisk o.config d sealer).Halts d f)
    (hlacks : 0 < o.files.zipIdx.countP ((Evaluator.onDisk o.config d sealer).lacks d)) :
    o.follow d sealer printer sink
      = (.error (.program (.unresolved
          (o.files.zipIdx.countP ((Evaluator.onDisk o.config d sealer).lacks d)))),
        (Evaluator.onDisk o.config d sealer).told d o.files.zipIdx) := by
  have hfiles : ∀ r ∈ (Evaluator.onDisk o.config d sealer).fileRuns d o.files.zipIdx,
      ∃ v?, r.outcome = .ok v? := by
    rw [Evaluator.fileRuns, List.forall_mem_map]
    intro f hf
    obtain ⟨v?, hv⟩ := hok f hf
    rw [Evaluator.fileRun_of_not_halts (hruns f hf)]
    exact ⟨v?, mapError_eq_ok_iff.2 hv⟩
  -- what the run counts as absent is what is absent by itself
  have hcount : ((Evaluator.onDisk o.config d sealer).fileRuns d o.files.zipIdx).countP
      FileRun.isAbsent = o.files.zipIdx.countP ((Evaluator.onDisk o.config d sealer).lacks d) := by
    rw [Evaluator.fileRuns, List.countP_map]
    exact List.countP_congr fun f hf => by
      rw [Function.comp_apply, Evaluator.isAbsent_fileRun (hruns f hf)]
  rw [Options.follow, run_deliver, report_eq hkey, Report.ofFiles_eq _ _ hfiles, hcount,
    if_neg (Nat.ne_of_gt hlacks), ← Evaluator.map_lines_fileRuns hruns]

variable (sink) in
/-- A run that a file ends, and with it all that comes behind. -/
theorem follow_of_error (hkey : o.generateKey = false) {front rest : List String} {file : String}
    {fault : ProgramFault} (hfiles : o.files = front ++ file :: rest)
    (hfront : (Evaluator.onDisk o.config d sealer).ResolvesTo d front.zipIdx values)
    (hfile : ((Evaluator.onDisk o.config d sealer).fileRun d front.length file).outcome
      = .error fault) :
    o.follow d sealer printer sink
      = (.error (.program fault), (Evaluator.onDisk o.config d sealer).told d front.zipIdx
          ++ ((Evaluator.onDisk o.config d sealer).fileRun d front.length file).lines.map .told)
      ∧ ∀ later, { o with files := front ++ file :: later }.report d sealer printer
        = o.report d sealer printer := by
  obtain ⟨hok, -, -⟩ := hfront.fileRuns
  constructor
  · rw [Options.follow, run_deliver, report_eq hkey, hfiles,
      Report.ofFiles_of_error _ _ hok hfile, ← Evaluator.map_lines_fileRuns hfront.not_halts]
    simp
  -- the harvest stops before it comes to what is behind the file
  · intro later
    have hkey' : { o with files := front ++ file :: later }.generateKey = false := hkey
    rw [report_eq hkey, report_eq hkey', hfiles]
    exact (Report.ofFiles_of_error _ _ hok hfile later).trans
      (Report.ofFiles_of_error _ _ hok hfile rest).symm

/-- Something is written exactly if every file has a document and they can be rendered. -/
theorem wrote_iff (hkey : o.generateKey = false) :
    (∃ file? text, Deed.wrote file? text ∈ (o.follow d sealer printer sink).2)
      ↔ ∃ values text, (Evaluator.onDisk o.config d sealer).ResolvesTo d o.files.zipIdx values
        ∧ o.format.Renders printer values text := by
  rw [Options.follow, wrote_iff_outcome, report_eq hkey]
  constructor
  · rintro ⟨text, htext⟩
    by_cases hok : ∀ r ∈ (Evaluator.onDisk o.config d sealer).fileRuns d o.files.zipIdx,
        ∃ v?, r.outcome = .ok v?
    · rw [Report.ofFiles_eq _ _ hok] at htext
      dsimp only at htext
      split at htext
      next hnone =>
        -- none ends the run and none is absent, so each has a document
        have hall : ∀ r ∈ (Evaluator.onDisk o.config d sealer).fileRuns d o.files.zipIdx,
            ∃ v, r.outcome = .ok (some v) := by
          intro r hr
          have habsent := List.countP_eq_zero.1 hnone r hr
          obtain ⟨v?, hv⟩ := hok r hr
          rw [FileRun.isAbsent, hv] at habsent
          cases v? with
          | none => exact absurd rfl habsent
          | some v => exact ⟨v, hv⟩
        obtain ⟨values, hvalues⟩ := Evaluator.exists_resolvesTo hall
        obtain ⟨-, -, hdocuments⟩ := hvalues.fileRuns
        rw [hdocuments, mapError_eq_ok_iff] at htext
        exact ⟨values, text, hvalues, DocumentFormat.render_eq_ok_iff.1 htext⟩
      next => cases htext
    -- some file ends the run, and then there is no output
    · obtain ⟨front, file, rest, fault, hfiles, hfront, hfile⟩ :=
        Evaluator.exists_error_of_not_ok hok
      rw [Nat.zero_add] at hfile
      rw [hfiles, Report.ofFiles_of_error _ _ hfront hfile] at htext
      cases htext
  · rintro ⟨values, text, hvalues, htext⟩
    obtain ⟨hok, habsent, hdocuments⟩ := hvalues.fileRuns
    refine ⟨text, ?_⟩
    rw [Report.ofFiles_eq _ _ hok]
    dsimp only
    rw [if_pos habsent, hdocuments, DocumentFormat.render_eq_ok_iff.2 htext]
    rfl

end Runs

/-- **Output is all or nothing.**  A run writes exactly if every file has a document and the
documents can be rendered, and then once: the documents in the order of their files, after all
entries of all logs have been told in order.  If the documents cannot be rendered, the run fails
for that, and nothing is written.

In the tolerant posture it goes through all files, tells their logs, and fails with the number of
those that have no document.  In the strict posture it ends with the first file that fails, and the
files after that one are as if they had not been given: nothing is told of them, and no documents
are asked for.  In either posture the run ends in the same way with a file in which the machine
stops, of which nothing is told. -/
theorem deliver_allOrNothing (o : Options) (d : Disk) (sealer : Sealer) (printer : Printer)
    (sink : Option String → String → Except IoFault Unit) (hkey : o.generateKey = false) :
    let e := Evaluator.onDisk o.config d sealer
    let files := o.files.zipIdx
    let done := o.follow d sealer printer sink
    ((∃ file? text, Deed.wrote file? text ∈ done.2)
      ↔ ∃ values text, e.ResolvesTo d files values ∧ o.format.Renders printer values text)
    ∧ (∀ values, e.ResolvesTo d files values →
      (∀ text, o.format.Renders printer values text →
        done = ((sink o.output text).mapError (RunFault.ofWrite o.output),
          e.told d files ++ [.wrote o.output text]))
      ∧ ((∀ text, ¬ o.format.Renders printer values text) →
        ∃ words, done = (.error (.program (.rendering o.format words)), e.told d files)))
    ∧ (o.strict = false → (∀ f ∈ files, ∃ v?, (e.settled d f).1 = .ok v?)
      ∧ ∀ k, (∀ f ∈ files, ¬ e.Halts d f) → files.countP (e.lacks d) = k → 0 < k →
        done = (.error (.program (.unresolved k)), e.told d files))
    ∧ (o.strict = true → ∀ f ∈ files, (e.settled d f).1 ≠ .ok none)
    ∧ ∀ front file rest values, o.files = front ++ file :: rest →
      e.ResolvesTo d front.zipIdx values →
      (∀ cause, ¬ e.Halts d (file, front.length) →
        (e.settled d (file, front.length)).1 = .error cause →
        done = (.error (.program (.document cause)), e.told d (front ++ [file]).zipIdx)
        ∧ ∀ later, { o with files := front ++ file :: later }.report d sealer printer
          = o.report d sealer printer)
      ∧ (e.Halts d (file, front.length) →
        done = (.error (.program .halted), e.told d front.zipIdx)
        ∧ ∀ later, { o with files := front ++ file :: later }.report d sealer printer
          = o.report d sealer printer) := by
  intro e files done
  refine ⟨wrote_iff hkey, ?_, ?_, ?_, ?_⟩
  · intro values hvalues
    have hdone : done = _ := follow_of_resolvesTo hkey hvalues
    refine ⟨fun text htext => ?_, fun hnone => ?_⟩
    · rw [hdone, DocumentFormat.render_eq_ok_iff.2 htext]
    · obtain ⟨words, hwords⟩ := DocumentFormat.exists_render_eq_error hnone
      exact ⟨words, by rw [hdone, hwords]⟩
  · intro hstrict
    have hposture : e.config.posture = .tolerant := if_neg (by rw [hstrict]; decide)
    have hok : ∀ f ∈ files, ∃ v?, (e.settled d f).1 = .ok v? :=
      fun f _ => Evaluator.settled_of_tolerant hposture f
    refine ⟨hok, ?_⟩
    rintro k hruns rfl hpos
    exact follow_of_lacks hkey hok hruns hpos
  · intro hstrict f _
    exact Evaluator.settled_of_strict (if_pos hstrict) f
  · intro front file rest values hfiles hfront
    refine ⟨fun cause hruns hcause => ?_, fun hhalts => ?_⟩
    · have hrun := Evaluator.fileRun_of_not_halts hruns
      have hend : (e.fileRun d front.length file).outcome = .error (.document cause) := by
        rw [hrun, hcause]
        rfl
      obtain ⟨hdone, hlater⟩ := follow_of_error sink hkey hfiles hfront hend
      -- what is told last is the log of the file that failed
      have hlast := Evaluator.map_lines_fileRuns (List.forall_mem_singleton.2 hruns)
      rw [Evaluator.fileRuns, List.map_singleton, List.flatMap_singleton] at hlast
      refine ⟨?_, hlater⟩
      rw [List.zipIdx_append, Nat.zero_add, Evaluator.told_append]
      exact hdone.trans (congrArg (Prod.mk _) (congrArg _ hlast))
    · have hrun := Evaluator.fileRun_of_halts hhalts
      have hend : (e.fileRun d front.length file).outcome = .error .halted := by rw [hrun]
      obtain ⟨hdone, hlater⟩ := follow_of_error sink hkey hfiles hfront hend
      refine ⟨?_, hlater⟩
      rw [hrun] at hdone
      exact hdone.trans (by rw [FileRun.lines, List.map_nil, List.map_nil, List.append_nil])

/-- Of two files only the one can be read.  Alone it is written out, unless it cannot be rendered.
With the other one before it nothing is written, and what is told of that one depends on the
posture. -/
theorem deliver_allOrNothing_of_missing :
    let d : Disk := fun name => if name = "a" then .file "a" (.ok "1") else .nothing .missing
    let sink : Option String → String → Except IoFault Unit := fun _ _ => .ok ()
    let run (files : List String) (strict : Bool) (printer : Printer) :=
      Options.follow ⟨files, [("ekey", .str "k")], [], ["."], "fernet", .yaml, none, strict, false⟩
        d (Cipher.fernet [] 0) printer sink
    let broken : Printer := ⟨fun _ => .error "no", fun _ => .error "no"⟩
    run ["a"] true .standard = (.ok (), [.wrote none "1\n"])
      ∧ (∃ words, run ["a"] true broken = (.error (.program (.rendering .yaml words)), []))
      ∧ run ["b", "a"] true .standard
        = (.error (.program (.document (.load (.io "b" .missing)))), [])
      ∧ run ["b", "a"] false .standard
        = (.error (.program (.unresolved 1)),
          [.told ("b: <root>: <root>: import of 'b' failed: "
            ++ "Cannot read \"b\": No such file or directory (os error 2)")]) := by
  intro d sink run broken
  let o (files : List String) (strict : Bool) : Options :=
    ⟨files, [("ekey", .str "k")], [], ["."], "fernet", .yaml, none, strict, false⟩
  let e (strict : Bool) : Evaluator := .onDisk (o [] strict).config d (Cipher.fernet [] 0)
  -- what each file comes to by itself, in either posture
  have hread : (e true).settled d ("a", 0) = (.ok (some (.int 1)), []) := by cbv
  have hread' : (e false).settled d ("a", 1) = (.ok (some (.int 1)), []) := by cbv
  have hmissing : (e true).settled d ("b", 0) = (.error (.load (.io "b" .missing)), []) := rfl
  have hmissing' : (e false).settled d ("b", 0)
      = (.ok none, [⟨[], .fatal ⟨[], .importing "b" (.io "b" .missing)⟩⟩]) := rfl
  have hprint : Printer.standard.yaml (.int 1) = .ok "1\n" := by cbv
  have hruns : ¬ (e true).Halts d ("a", 0) := by
    rw [Evaluator.Halts, hread]
    decide
  have hvalues : (e true).ResolvesTo d [("a", 0)] [.int 1] :=
    .cons ⟨hruns, congrArg Prod.fst hread⟩ .nil
  have htold : (e true).told d [("a", 0)] = [] := by
    rw [Evaluator.told_cons, hread]
    rfl
  refine ⟨?_, ?_, ?_, ?_⟩
  · obtain ⟨-, hdone, -⟩ :=
      deliver_allOrNothing (o ["a"] true) d (Cipher.fernet [] 0) .standard sink rfl
    have hrun := (hdone [.int 1] hvalues).1 "1\n" (.yaml (.cons hprint .nil))
    exact hrun.trans (congrArg (fun lines => Prod.mk _ (lines ++ [.wrote none "1\n"])) htold)
  · obtain ⟨-, hdone, -⟩ :=
      deliver_allOrNothing (o ["a"] true) d (Cipher.fernet [] 0) broken sink rfl
    have hnone : ∀ text, ¬ DocumentFormat.Renders broken .yaml [.int 1] text := by
      rintro text (⟨_ | ⟨hfirst, -⟩⟩)
      cases hfirst
    obtain ⟨words, hrun⟩ := (hdone [.int 1] hvalues).2 hnone
    exact ⟨words, hrun.trans (congrArg (Prod.mk _) htold)⟩
  · obtain ⟨-, -, -, -, hfirst⟩ :=
      deliver_allOrNothing (o ["b", "a"] true) d (Cipher.fernet [] 0) .standard sink rfl
    have hfails := (hfirst [] "b" ["a"] [] rfl .nil).1 (.load (.io "b" .missing))
    exact (hfails (Bool.false_ne_true) (congrArg Prod.fst hmissing)).1
  · obtain ⟨-, -, htolerant, -⟩ :=
      deliver_allOrNothing (o ["b", "a"] false) d (Cipher.fernet [] 0) .standard sink rfl
    have hruns : ∀ f ∈ ["b", "a"].zipIdx, ¬ (e false).Halts d f := by
      simp only [List.zipIdx_cons, List.zipIdx_nil, List.forall_mem_cons, Evaluator.Halts,
        hmissing', hread']
      decide
    have hlacks : ["b", "a"].zipIdx.countP ((e false).lacks d) = 1 := by
      simp [Evaluator.lacks, hread', hmissing']
    have hlines : (e false).told d ["b", "a"].zipIdx
        = [.told ("b: <root>: <root>: import of 'b' failed: "
          ++ "Cannot read \"b\": No such file or directory (os error 2)")] := by
      have hline : "b" ++ ": "
          ++ (LogEntry.mk [] (.fatal ⟨[], .importing "b" (.io "b" .missing)⟩)).message
          = "b: <root>: <root>: import of 'b' failed: "
            ++ "Cannot read \"b\": No such file or directory (os error 2)" := by decide +kernel
      rw [List.zipIdx_cons, Evaluator.told_cons, hmissing', List.zipIdx_cons, Evaluator.told_cons,
        hread']
      exact congrArg (fun line => [Deed.told line]) hline
    rw [← hlines]
    exact (htolerant rfl).2 1 hruns hlacks Nat.one_pos

end ConfigTree
