import ConfigTree.Value

/-!
# Tables of TOML

A file builds up one table, entry by entry.  A table can come up in three ways: under
a header of its own, on the way of a longer header, or on the way of a key with dots.
What may still be added to it depends on how it came up.

## Main definitions

* `Origin`, `Node` — how a table came up, and what a table holds.
* `Table.assign` — an entry under a key with dots.
* `Table.openTable`, `Table.openItem` — the headers.
* `Table.within` — a change below a header.
* `Table.value` — the mapping that a table is.
-/

namespace ConfigTree.Toml

/-- How a table came up. -/
inductive Origin
  /-- Under its own header. -/
  | stated
  /-- On the way of a longer header. -/
  | passed
  /-- On the way of a key with dots. -/
  | dotted
  deriving DecidableEq

/-- What a table holds. -/
inductive Node
  /-- A value. -/
  | value (v : Value)
  /-- A table. -/
  | table (origin : Origin) (entries : List (String × Node))
  /-- A list of tables under headers for items, the last first. -/
  | items (tables : List (List (String × Node)))

/-- The entries of a table in order. -/
abbrev Table := Entries Node

namespace Table

/-- A value under a key with dots.  Tables on the way must have come up like that, or else on the
way of a header if they are not the last; the place must be free. -/
def assign : List String → Value → Table → Option Table
  | [], _, _ => none
  | [key], v, t => if t.has key then none else some (t.insert key (.value v))
  | key :: next :: rest, v, t => do
    match t.get? key with
    | none => return t.insert key (.table .dotted (← assign (next :: rest) v []))
    | some (.table origin inner) =>
      if origin = .stated || (rest.isEmpty && origin = .passed) then none
      else return t.insert key (.table origin (← assign (next :: rest) v inner))
    | some (.items (last :: before)) =>
      if rest.isEmpty then none
      else return t.insert key (.items ((← assign (next :: rest) v last) :: before))
    | some (.items []) => none
    | some (.value _) => none

/-- A table with a change made to the table under a key, which comes up on the way if it is not
there.  Of a list of tables the last is changed. -/
def step (key : String) (change : Table → Option Table) (t : Table) : Option Table := do
  match t.get? key with
  | none => return t.insert key (.table .passed (← change []))
  | some (.table origin inner) => return t.insert key (.table origin (← change inner))
  | some (.items (last :: before)) => return t.insert key (.items ((← change last) :: before))
  | some (.items []) => none
  | some (.value _) => none

/-- A table with a change made to the table under a path. -/
def within (change : Table → Option Table) : List String → Table → Option Table
  | [], t => change t
  | key :: rest, t => step key (within change rest) t

/-- The header of a table.  A table that came up on the way of a longer header may still get one,
and then goes behind all others. -/
def openTable : List String → Table → Option Table
  | [], _ => none
  | [key], t =>
    match t.get? key with
    | none => some (t.insert key (.table .stated []))
    | some (.table .passed inner) => some ((t.erase key).insert key (.table .stated inner))
    | some _ => none
  | key :: next :: rest, t => step key (openTable (next :: rest)) t

/-- The header of an item of a list of tables. -/
def openItem : List String → Table → Option Table
  | [], _ => none
  | [key], t =>
    match t.get? key with
    | none => some (t.insert key (.items [[]]))
    | some (.items tables) => some (t.insert key (.items ([] :: tables)))
    | some _ => none
  | key :: next :: rest, t => step key (openItem (next :: rest)) t

mutual

/-- The value that a node is. -/
def valueOf : Node → Value
  | .value v => v
  | .table _ entries => .map (entriesOf entries)
  | .items tables => .list (tablesOf [] tables)
termination_by structural n => n

/-- The entries that the entries of a table are. -/
def entriesOf : List (String × Node) → List (String × Value)
  | [] => []
  | (key, node) :: rest => (key, valueOf node) :: entriesOf rest
termination_by structural es => es

/-- The mappings that tables are, in reverse before those `done`. -/
def tablesOf (done : List Value) : List (List (String × Node)) → List Value
  | [] => done
  | entries :: rest => tablesOf (.map (entriesOf entries) :: done) rest
termination_by structural ts => ts

end

/-- The mapping that a table is. -/
def value (t : Table) : Mapping := entriesOf t

end Table

end ConfigTree.Toml
