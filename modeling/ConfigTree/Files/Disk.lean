import ConfigTree.Document.Source

/-!
# Disks

What can be seen of a file system: a name is looked up, and stands for nothing, for a
folder or for a file.  Folders and files have one name by which they are known
however they were reached.  Documents are read from a disk under the notation that
their name ends in.

## Main definitions

* `DiskEntry`, `Disk` — what stands under a name.
* `Disk.read` — the document in a file.
* `Disk.find?` — the first file of some names.
* `Disk.library` — the documents of a disk, as a library.
-/

namespace ConfigTree

/-- What stands under a name. -/
inductive DiskEntry
  /-- Nothing that can be used. -/
  | nothing (fault : IoFault)
  /-- A folder, known by the name. -/
  | folder (file : String)
  /-- A file, known by the name, and its text if it can be had. -/
  | file (file : String) (text : Except IoFault String)

/-- What stands under each name. -/
abbrev Disk := String → DiskEntry

/-- The notation of a file: JSON if its name ends so, in letters of any case. -/
def DocumentFormat.ofFile (file : String) : DocumentFormat :=
  if ((FileName.ending? file).map String.toLower) == some "json" then .json else .yaml

namespace Disk

/-- Whether a file stands under a name. -/
def isFile (d : Disk) (name : String) : Bool :=
  match d name with
  | .file _ _ => true
  | .folder _ => false
  | .nothing _ => false

/-- The text under a name. -/
def text (d : Disk) (name : String) : Except IoFault String :=
  match d name with
  | .file _ text => text
  | .folder _ => .error .isFolder
  | .nothing fault => .error fault

/-- The document under a name.  A fault of the name is told of the name as it is given, one of the
file of the name that the file is known by. -/
def read (d : Disk) (name : String) : Except LoadError Loaded :=
  match d name with
  | .nothing fault => .error (.io name fault)
  | .folder file => .error (.io file .isFolder)
  | .file file (.error fault) => .error (.io file fault)
  | .file file (.ok text) => ((DocumentFormat.ofFile file).read file text).map (⟨some file, ·⟩)

/-- The names that a reference may stand for: an absolute one stands for itself, any other is taken
relative to the folder that it is made in, then to each of the included folders. -/
def candidates (includes : List String) (reference : String) (folder : Option String) :
    List String :=
  if FileName.isAbsolute reference then [reference]
  else (folder.toList ++ includes).map (FileName.join · reference)

/-- The first of some names under which a file stands. -/
def find? (d : Disk) (names : List String) : Option String := names.find? d.isFile

/-- The documents of a disk, looked for in the included folders too. -/
def library (d : Disk) (includes : List String) : Library := fun reference folder =>
  match d.find? (candidates includes reference folder) with
  | some name => d.read name
  | none => .error (.notFound reference)

end Disk

end ConfigTree
