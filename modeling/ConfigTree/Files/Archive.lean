import ConfigTree.Files.Disk

/-!
# Archives

A file system held in memory: texts under absolute places, and the folder in which
names start.  There are no other folders than those around a file and around the
start.

## Main definitions

* `Place` — the parts of an absolute name.
* `Archive`, `Archive.write` — the files, and putting one there.
* `Archive.disk` — what can be seen of an archive.
-/

namespace ConfigTree

/-- The parts of an absolute name, from the root on, without dots. -/
abbrev Place := List String

/-- The absolute name. -/
def Place.text (p : Place) : String := "/" ++ String.intercalate "/" p

/-- Files held in memory. -/
structure Archive where
  /-- The folder in which names start. -/
  start : Place
  /-- The files, each once. -/
  files : List (Place × String)

namespace Archive

/-- The text of the file in a place. -/
def fileAt? (a : Archive) (p : Place) : Option String := (a.files.find? (·.1 == p)).map (·.2)

/-- Whether a place is a folder. -/
def isFolder (a : Archive) (p : Place) : Bool :=
  p.isPrefixOf a.start || a.files.any fun (q, _) => q != p && p.isPrefixOf q

/-- The place to which a part leads from a folder. -/
def next (p : Place) (part : String) : Place :=
  if part == "" || part == "." then p
  else if part == ".." then p.dropLast
  else p ++ [part]

/-- The place to which parts lead, all places on the way being folders. -/
def follow (a : Archive) (p : Place) : List String → Except IoFault Place
  | [] => .ok p
  | part :: rest =>
    if (a.fileAt? p).isSome then .error .notFolder
    else if !a.isFolder p then .error .missing
    else if 255 < part.utf8ByteSize then .error .longName
    else a.follow (next p part) rest

/-- The place of a name, where there may be nothing. -/
def place (a : Archive) (name : String) : Except IoFault Place :=
  if name == "" then .error .missing
  else if name.toList.contains '\x00' then .error .badName
  else a.follow (if FileName.isAbsolute name then [] else a.start) (FileName.pieces name)

/-- What can be seen of an archive. -/
def disk (a : Archive) : Disk := fun name =>
  match a.place name with
  | .error fault => .nothing fault
  | .ok p =>
    match a.fileAt? p with
    | some text => .file p.text (.ok text)
    | none => if a.isFolder p then .folder p.text else .nothing .missing

/-- The archive with a text in a place. -/
def put (a : Archive) (p : Place) (text : String) : Archive :=
  { a with files := (a.files.filter fun (q, _) => q != p) ++ [(p, text)] }

/-- The archive with a text under a name.  A file is made where there is none, but no folder
is. -/
def write (a : Archive) (name text : String) : Except IoFault Archive :=
  match a.place name with
  | .error fault => .error fault
  | .ok p =>
    if a.isFolder p then .error .isFolder
    else if (a.fileAt? p).isNone && (FileName.pieces name).getLast? == some "" then
      .error .isFolder
    else if (a.fileAt? p).isNone && !a.isFolder p.dropLast then .error .missing
    else .ok (a.put p text)

/-- The archive of some files, under names that start where all names do. -/
def ofFiles (start : Place) (files : List (String × String)) : Archive :=
  files.foldl
    (fun a (name, text) => a.put ((FileName.pieces name).foldl next start) text) ⟨start, []⟩

end Archive

end ConfigTree
