import ConfigTree.Program.Report

/-!
# Delivery

What a run comes to is told and written.  All lines are told first, and then the output is
written if there is any.  Where that goes is left to an outlet, so that a run can be followed
without a terminal or a disk.

## Main definitions

* `Outlet` — where lines are told and the output is written.
* `RunFault` — why a run fails.
* `Report.deliver` — what a run comes to, told and written.
-/

namespace ConfigTree

/-- Where lines are told and the output is written. -/
structure Outlet (m : Type → Type) where
  /-- Tells a line. -/
  tell : String → m Unit
  /-- Writes the output to a file, or to the screen. -/
  write : Option String → String → m (Except IoFault Unit)

/-- Why a run fails. -/
inductive RunFault
  /-- There is no output, or it cannot be written to its file. -/
  | program (fault : ProgramFault)
  /-- The screen cannot be written to. -/
  | screen (fault : IoFault)

namespace RunFault

/-- The fault in words. -/
def message : RunFault → String
  | .program fault => fault.message
  | .screen fault => "Failed to write output: " ++ fault.text

/-- The fault of an output that cannot be written. -/
def ofWrite (file? : Option String) (fault : IoFault) : RunFault :=
  match file? with
  | some file => .program (.unwritable file fault)
  | none => .screen fault

end RunFault

/-- Tells the lines of a report, and writes its output if there is any. -/
def Report.deliver {m : Type → Type} [Monad m] (r : Report) (outlet : Outlet m)
    (file? : Option String) : m (Except RunFault Unit) := do
  r.lines.forM outlet.tell
  match r.outcome with
  | .error fault => return .error (.program fault)
  | .ok text => return (← outlet.write file? text).mapError (RunFault.ofWrite file?)

end ConfigTree
