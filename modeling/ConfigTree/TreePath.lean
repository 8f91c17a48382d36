import ConfigTree.Value
import ConfigTree.Text.Search

/-!
# Places in a tree

A place is the list of steps that lead to it from the root: into the entry of a
mapping or to the item of a list.

## Main definitions

* `Step`, `TreePath` — the places; `TreePath.text` — how messages name one.
* `Value.at?` — what stands at a place.
* `Value.put` — the tree with something put there.
-/

namespace ConfigTree

/-- One step into a tree. -/
inductive Step
  /-- To the entry of a mapping. -/
  | key (k : String)
  /-- To the item of a list. -/
  | index (i : Nat)
  deriving DecidableEq

/-- The steps from the root to a place. -/
abbrev TreePath := List Step

namespace TreePath

/-- The place of an entry of the mapping at `p`. -/
def entry (p : TreePath) (k : String) : TreePath := p ++ [.key k]

/-- The place of an item of the list at `p`. -/
def item (p : TreePath) (i : Nat) : TreePath := p ++ [.index i]

/-- The place around `p`; the root is its own. -/
def parent (p : TreePath) : TreePath := p.dropLast

/-- The parts of a dotted key; the empty key has one part. -/
def parts (dotted : String) : List String :=
  (Text.splitOn ['.'] dotted.toList).map String.ofList

/-- The place that a dotted key names below `p`. -/
def dotted (p : TreePath) (key : String) : TreePath := p ++ (parts key).map Step.key

/-- The place that a dotted key names in a whole tree; the empty key names the root. -/
def ofDotted (key : String) : TreePath := if key.isEmpty then [] else dotted [] key

/-- The steps after the first as text. -/
def tailText : TreePath → String
  | [] => ""
  | .key k :: rest => "." ++ k ++ tailText rest
  | .index i :: rest => "[" ++ toString i ++ "]" ++ tailText rest

/-- The place as messages name it. -/
def text : TreePath → String
  | [] => "<root>"
  | .key k :: rest => k ++ tailText rest
  | p => tailText p

@[simp] theorem parent_nil : parent [] = [] := rfl

@[simp] theorem parent_entry (p : TreePath) (k : String) : parent (entry p k) = p := by
  simp [parent, entry]

@[simp] theorem parent_item (p : TreePath) (i : Nat) : parent (item p i) = p := by
  simp [parent, item]

end TreePath

namespace Value

/-- What stands at a place. -/
def at? : Value → TreePath → Option Value
  | v, [] => some v
  | .map es, .key k :: rest => (Entries.get? es k).bind (at? · rest)
  | .list xs, .index i :: rest => xs[i]?.bind (at? · rest)
  | _, _ :: _ => none

/-- The list with `f` done to the item at `i`; a list too short is filled up with absent
values. -/
def putItem : List Value → Nat → (Value → Value) → List Value
  | [], 0, f => [f .null]
  | [], n + 1, f => .null :: putItem [] n f
  | x :: xs, 0, f => f x :: xs
  | x :: xs, n + 1, f => x :: putItem xs n f

/-- The tree with `v` put at a place.  What stands in the way and is not of the kind that the
next step needs gives way to a new mapping or list. -/
def put : Value → TreePath → Value → Value
  | _, [], v => v
  | .map es, .key k :: rest, v =>
    .map (Entries.alter es k fun old => put (old.getD .null) rest v)
  | _, .key k :: rest, v => .map [(k, put .null rest v)]
  | .list xs, .index i :: rest, v => .list (putItem xs i fun old => put old rest v)
  | _, .index i :: rest, v => .list (putItem [] i fun old => put old rest v)

@[simp] theorem at?_nil (v : Value) : v.at? [] = some v := by cases v <;> rfl

@[simp] theorem put_nil (t v : Value) : t.put [] v = v := by cases t <;> rfl

@[simp] theorem at?_map_key (es : List (String × Value)) (k : String) (rest : TreePath) :
    at? (.map es) (.key k :: rest) = (Entries.get? es k).bind (at? · rest) := rfl

@[simp] theorem at?_list_index (xs : List Value) (i : Nat) (rest : TreePath) :
    at? (.list xs) (.index i :: rest) = xs[i]?.bind (at? · rest) := rfl

@[simp] theorem put_map_key (es : List (String × Value)) (k : String) (rest : TreePath)
    (v : Value) : put (.map es) (.key k :: rest) v
      = .map (Entries.alter es k fun old => put (old.getD .null) rest v) := rfl

@[simp] theorem put_list_index (xs : List Value) (i : Nat) (rest : TreePath) (v : Value) :
    put (.list xs) (.index i :: rest) v = .list (putItem xs i fun old => put old rest v) := rfl

end Value

end ConfigTree
