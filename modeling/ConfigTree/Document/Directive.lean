import ConfigTree.Document.Error

/-!
# Directives

Keys of a mapping that tell how to make it rather than what is in it.  Each has two
spellings and serves one of three purposes, and a mapping can have one directive for
each purpose.

## Main definitions

* `Directive.ofKey?` — the directive that a key spells.
* `Directive.conflict?` — two directives for one purpose.
-/

namespace ConfigTree

/-- A way to make a mapping. -/
inductive Directive
  /-- Start from a mapping that stands elsewhere or is written in place. -/
  | extend
  /-- Start from another document. -/
  | fetch
  /-- Lay values over single entries in the end. -/
  | update
  /-- Add the instances of a template. -/
  | loop
  deriving DecidableEq

/-- What a directive contributes. -/
inductive Purpose
  /-- What the mapping starts from. -/
  | base
  /-- What comes last. -/
  | update
  /-- The instances of a template. -/
  | loop
  deriving DecidableEq

namespace Directive

/-- What a directive contributes. -/
def purpose : Directive → Purpose
  | .extend => .base
  | .fetch => .base
  | .update => .update
  | .loop => .loop

/-- The directive that a key spells, if any. -/
def ofKey? : String → Option Directive
  | "extends" => some .extend
  | "F.extend" => some .extend
  | "import" => some .fetch
  | "F.inc" => some .fetch
  | "update" => some .update
  | "F.update" => some .update
  | "foreach" => some .loop
  | "F.foreach" => some .loop
  | _ => none

/-- Whether a key spells a directive. -/
def isKey (key : String) : Bool := (ofKey? key).isSome

/-- The first key that spells a directive for a purpose already served, with the key that serves
it; `served` holds the purposes served before. -/
def conflictAfter (served : List (Purpose × String)) : Mapping → Option (String × String)
  | [] => none
  | (key, _) :: rest =>
    match ofKey? key with
    | none => conflictAfter served rest
    | some d =>
      match served.lookup d.purpose with
      | some previous => some (key, previous)
      | none => conflictAfter ((d.purpose, key) :: served) rest

/-- The first key of a mapping that spells a directive for a purpose already served, with the
key that serves it. -/
def conflict? (entries : Mapping) : Option (String × String) := conflictAfter [] entries

@[simp] theorem conflict?_nil : conflict? [] = none := rfl

end Directive

end ConfigTree
