import ConfigTree.Toml.Moment
import ConfigTree.Toml.Number
import ConfigTree.Toml.Table

/-!
# Reading TOML

A file is a sequence of lines: headers, entries, and lines without either.  Values may
span lines inside of lists and of strings in three quotes.

## Main definitions

* `value` — a value at the start of a text.
* `read` — the mapping of a text.
-/

namespace ConfigTree.Toml

/-! ### Values -/

/-- The items of a list after those `done`, the last first; the budget bounds their number.  A comma
may stand behind the last one. -/
def itemsWith (read : Reader Value) : Nat → List Value → Reader Value
  | 0, _, _ => none
  | n + 1, done, cs => do
    match ← skipGaps false cs with
    | ']' :: cs => return (.list done.reverse, cs)
    | cs =>
      let (v, cs) ← read cs
      match ← skipGaps false cs with
      | ',' :: cs => itemsWith read n (v :: done) cs
      | ']' :: cs => return (.list (v :: done).reverse, cs)
      | _ => none

/-- An entry: a key with dots, an equals sign and a value. -/
def entryWith (read : Reader Value) : Reader (List String × Value) := fun cs => do
  let (path, cs) ← keyPath cs
  let (v, cs) ← read (skipSpace (← expect '=' cs))
  return ((path, v), cs)

/-- The entries of a table on one line, after those in a table; the budget bounds their number. -/
def entriesWith (read : Reader Value) : Nat → Table → Reader Value
  | 0, _, _ => none
  | n + 1, t, cs => do
    let ((path, v), cs) ← entryWith read cs
    let t ← t.assign path v
    match skipSpace cs with
    | ',' :: cs => entriesWith read n t cs
    | '\x7d' :: cs => return (.map t.value, cs)
    | _ => none

/-- A table on one line, whose brace has been read. -/
def inlineTable (read : Reader Value) : Reader Value := fun cs =>
  match skipSpace cs with
  | '\x7d' :: cs => some (.map [], cs)
  | cs => entriesWith read cs.length [] cs

/-- A value; `inner` reads what it holds. -/
def valueWith (inner : Option (Reader Value)) : Reader Value
  | 't' :: 'r' :: 'u' :: 'e' :: cs => some (.bool true, cs)
  | 'f' :: 'a' :: 'l' :: 's' :: 'e' :: cs => some (.bool false, cs)
  | '[' :: cs => do itemsWith (← inner) (cs.length + 1) [] cs
  | '\x7b' :: cs => do inlineTable (← inner) cs
  | cs =>
    match cs.head? with
    | some '"' => (string cs).map fun (s, cs) => (.str s, cs)
    | some '\'' => (string cs).map fun (s, cs) => (.str s, cs)
    | _ => (moment cs).or (number cs)

/-- A value in which collections are nested no deeper than a depth. -/
def valueWithin : Nat → Reader Value
  | 0 => valueWith none
  | depth + 1 => valueWith (some (valueWithin depth))

/-- How deep collections may be nested. -/
def maxNesting : Nat := 79

/-- A value at the start of a text. -/
def value : Reader Value := valueWithin maxNesting

/-! ### Files -/

/-- What the lines so far have built up, and the path of the last header. -/
structure Draft where
  /-- The table of the file. -/
  table : Table
  /-- The path under which entries go. -/
  header : List String

/-- A line, and what follows it. -/
def line (d : Draft) : Reader Draft
  | '[' :: '[' :: cs => do
    let (path, cs) ← keyPath cs
    let cs ← endLine (← expect ']' (← expect ']' cs))
    return (⟨← d.table.openItem path, path⟩, cs)
  | '[' :: cs => do
    let (path, cs) ← keyPath cs
    let cs ← endLine (← expect ']' cs)
    return (⟨← d.table.openTable path, path⟩, cs)
  | '#' :: cs => do return (d, ← endLine ('#' :: cs))
  | cs =>
    match lineBreak? cs with
    | some cs => some (d, cs)
    | none => do
      let ((path, v), cs) ← entryWith value cs
      let cs ← endLine cs
      return ({ d with table := ← Table.within (Table.assign path v) d.header d.table }, cs)

/-- The lines of a text; the budget bounds their number. -/
def lines : Nat → Draft → List Char → Option Table
  | 0, _, _ => none
  | n + 1, d, cs =>
    match skipSpace cs with
    | [] => some d.table
    | cs => do
      let (d, cs) ← line d cs
      lines n d cs

/-- The mapping of a text; a byte order mark at its start does not count. -/
def read (text : String) : Option Mapping :=
  let cs := match text.toList with
    | '\uFEFF' :: cs => cs
    | cs => cs
  (lines (cs.length + 1) ⟨[], []⟩ cs).map Table.value

end ConfigTree.Toml
