import ConfigTree.Value
import ConfigTree.Number.Layout
import ConfigTree.Text.Search

/-!
# Values as text

A value has two texts.  Its literal is how an expression would write it, with
quotes around strings; its text is the literal too, except that a string is its
own text.  A mapping key is a text of a third kind, by which documents and
expressions name entries.

## Main definitions

* `Value.literal`, `Value.text`, `Value.keyText`.
-/

namespace ConfigTree

namespace Value

/-- A string between single quotes, with a backslash before every backslash and quote. -/
def quoted (s : String) : String :=
  String.ofList (['\''] ++
    (s.toList.flatMap fun c => if c == '\\' || c == '\'' then ['\\', c] else [c]) ++ ['\''])

mutual

/-- The value as an expression would write it. -/
def literal : Value → String
  | .null => "None"
  | .bool b => if b then "True" else "False"
  | .int n => toString n.toInt
  | .float x => Number.readable x
  | .str s => quoted s
  | .list items => "[" ++ String.intercalate ", " (literalsFrom [] items) ++ "]"
  | .map entries => "\x7b" ++ String.intercalate ", " (entriesFrom [] entries) ++ "\x7d"
termination_by structural v => v

/-- The literals of the rest of a list, after those `done` held back to front. -/
def literalsFrom (done : List String) : List Value → List String
  | [] => done.reverse
  | v :: vs => literalsFrom (literal v :: done) vs
termination_by structural vs => vs

/-- The rest of the entries of a mapping, after those `done` held back to front: the key
between quotes as it is, then the literal. -/
def entriesFrom (done : List String) : List (String × Value) → List String
  | [] => done.reverse
  | (k, v) :: rest => entriesFrom (("'" ++ k ++ "': " ++ literal v) :: done) rest
termination_by structural es => es

end

/-- The value as text: a string is its own text. -/
def text : Value → String
  | .str s => s
  | v => v.literal

/-- The value as a mapping key. -/
def keyText : Value → String
  | .str s => s
  | .null => "null"
  | .bool b => if b then "true" else "false"
  | v => v.literal

theorem literalsFrom_eq (done : List String) (vs : List Value) :
    literalsFrom done vs = done.reverse ++ vs.map literal := by
  induction vs generalizing done with
  | nil => simp [literalsFrom]
  | cons v vs ih => simp [literalsFrom, ih]

theorem entriesFrom_eq (done : List String) (es : List (String × Value)) :
    entriesFrom done es = done.reverse ++ es.map fun e => "'" ++ e.1 ++ "': " ++ literal e.2 := by
  induction es generalizing done with
  | nil => simp [entriesFrom]
  | cons e es ih => obtain ⟨k, v⟩ := e; simp [entriesFrom, ih]

@[simp] theorem text_str (s : String) : text (.str s) = s := rfl

@[simp] theorem keyText_str (s : String) : keyText (.str s) = s := rfl

end Value

end ConfigTree
