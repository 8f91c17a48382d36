import ConfigTree.Text.Search

/-!
# Names of files

File names as texts with slashes between their parts: joining them, the folder
that holds a file, and when two names are the same name.

## Main definitions

* `FileName.join` — a name taken relative to a folder.
* `FileName.parts`, `FileName.same` — the parts that count.
* `FileName.folder?` — the name of the folder around.
* `FileName.ending?` — what follows the last dot of the last part.
-/

namespace ConfigTree.FileName

/-- A name that starts at the root. -/
def isAbsolute (name : String) : Bool := name.toList.head? == some '/'

/-- A name taken relative to a folder: an absolute name stands for itself, any other is put
behind the folder, with a slash between unless there is one. -/
def join (folder name : String) : String :=
  if isAbsolute name then name
  else
    match folder.toList.getLast? with
    | none => name
    | some '/' => folder ++ name
    | some _ => folder ++ "/" ++ name

/-- The texts between the slashes. -/
def pieces (name : String) : List String :=
  (Text.splitOn ['/'] name.toList).map String.ofList

/-- The parts of a name: the root if it starts there, then the pieces, empty ones and single
dots left out; a dot at the start of a name counts. -/
def parts (name : String) : List String :=
  let rest := (pieces name).filter fun p => p != "" && p != "."
  if isAbsolute name then "/" :: rest
  else if (pieces name).head? == some "." then "." :: rest
  else rest

/-- Two names with the same parts. -/
def same (a b : String) : Bool := parts a == parts b

/-- The characters of a name, back to front, without slashes and single dots at the end. -/
def trimmed : List Char → List Char
  | ['/'] => ['/']
  | '/' :: cs => trimmed cs
  | '.' :: '/' :: cs => if cs.isEmpty then ['/'] else trimmed cs
  | cs => cs

/-- The name of the folder around, which is empty for a name of one part.  The root and the
empty name have none. -/
def folder? (name : String) : Option String :=
  match parts name with
  | [] => none
  | ["/"] => none
  | _ =>
    let cs := trimmed name.toList.reverse
    let around := cs.dropWhile (· != '/')
    some (String.ofList (trimmed around).reverse)

/-- The last part of a name, unless it is the root, a dot or two. -/
def last? (name : String) : Option String :=
  match (parts name).getLast? with
  | some "/" => none
  | some "." => none
  | some ".." => none
  | p => p

/-- What follows the last dot of the last part; a dot at its start does not count. -/
def ending? (name : String) : Option String := do
  let cs := (← last? name).toList.reverse
  let ending := cs.takeWhile (· != '.')
  match cs.drop ending.length with
  | '.' :: _ :: _ => some (String.ofList ending.reverse)
  | _ => none

end ConfigTree.FileName
