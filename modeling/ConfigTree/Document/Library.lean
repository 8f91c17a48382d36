import ConfigTree.Document.Error

/-!
# Libraries

Where imported documents come from.  A library answers a reference, which is taken
relative to the folder of the importing document if that came from a file.

## Main definitions

* `Library` — the answers.
* `Library.ofDocuments` — documents held in memory.
-/

namespace ConfigTree

/-- A document that has been read. -/
structure Loaded where
  /-- The file that it came from, under a name that no other file has. -/
  file : Option String
  /-- What it holds. -/
  content : Value

/-- The document that a reference is to, seen from a folder. -/
abbrev Library := String → Option String → Except LoadError Loaded

namespace Library

/-- A library without documents. -/
def empty : Library := fun reference _ => .error (.notFound reference)

/-- Documents by name. -/
def ofDocuments (documents : Entries Loaded) : Library := fun reference _ =>
  match documents.get? reference with
  | some document => .ok document
  | none => .error (.notFound reference)

end Library

end ConfigTree
