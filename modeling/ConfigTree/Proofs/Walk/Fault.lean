import ConfigTree.Proofs.Document.Loop

/-!
# Faults of nodes

Most faults are those of a node itself: its directives, its references, its loop.  The
others are met on the way to another document.  What takes a loop apart gives faults of
the former sort only.

## Main definitions

* `DocumentFault.OfNode` — the faults of a node itself.

## Main results

* `DocumentFault.ofNode_of_ofValue` — a malformed loop is a fault of its node.
-/

namespace ConfigTree.DocumentFault

/-- A fault of a node itself, and not of what it imports. -/
def OfNode : DocumentFault → Prop
  | .importing _ _ => False
  | .circularImport _ => False
  | .importDepth => False
  | _ => True

variable {fault : DocumentFault}

/-- **A malformed loop is a fault of its node.** -/
theorem ofNode_of_ofValue {v : Value} (h : Loop.ofValue v = .error fault) : fault.OfNode := by
  -- no expression is evaluated, so that any evaluation and any machine serve
  have hdefect : Loop.Defect Range.halting (fun source => .ok (.str source)) v fault :=
    Loop.defect_of_ofValue h
  rcases hdefect.fault_eq with ⟨cause, rfl⟩ | ⟨kind, rfl⟩ | ⟨generator, parameter, rfl⟩ <;> trivial

end ConfigTree.DocumentFault
