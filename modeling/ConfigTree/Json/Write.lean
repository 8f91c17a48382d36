import ConfigTree.Json.Number

/-!
# Writing JSON

Collections are written over several lines, each level indented by two spaces.

## Main definitions

* `write` — the text of a value.
-/

namespace ConfigTree.Json

/-- The escape of a character by its number, which is less than 256. -/
def hexEscape (n : Nat) : List Char :=
  "\\u00".toList ++ [Nat.digitChar (n / 16), Nat.digitChar (n % 16)]

/-- How a character is written in a string. -/
def charText (c : Char) : List Char :=
  if c == '"' then ['\\', '"']
  else if c == '\\' then ['\\', '\\']
  else if c == '\x08' then ['\\', 'b']
  else if c == '\x0c' then ['\\', 'f']
  else if c == '\n' then ['\\', 'n']
  else if c == '\r' then ['\\', 'r']
  else if c == '\t' then ['\\', 't']
  else if c.toNat < 0x20 then hexEscape c.toNat
  else [c]

/-- A string in quotes. -/
def stringText (s : String) : String :=
  String.ofList (['"'] ++ s.toList.flatMap charText ++ ['"'])

/-- A float; infinity is written like nothing whatever its sign. -/
def floatText (x : Float) : String := if x.isFinite then numberText.write x else numberText.nan

/-- A line break and the margin of a depth. -/
def newLine (depth : Nat) : String := String.ofList ('\n' :: List.replicate (2 * depth) ' ')

/-- The parts of a collection between its brackets. -/
def enclosed (left right : String) (depth : Nat) (parts : List String) : String :=
  match parts with
  | [] => left ++ right
  | _ =>
    left ++ newLine (depth + 1) ++ String.intercalate ("," ++ newLine (depth + 1)) parts
      ++ newLine depth ++ right

mutual

/-- The text of a value at a depth. -/
def writeAt (depth : Nat) (v : Value) : String :=
  match v with
  | .null => "null"
  | .bool b => if b then "true" else "false"
  | .int n => toString n.toInt
  | .float x => floatText x
  | .str s => stringText s
  | .list items => enclosed "[" "]" depth (writeItems (depth + 1) items)
  | .map entries => enclosed "\x7b" "\x7d" depth (writeEntries (depth + 1) entries)
termination_by structural v

/-- The texts of the items of a list. -/
def writeItems (depth : Nat) (items : List Value) : List String :=
  match items with
  | [] => []
  | v :: rest => writeAt depth v :: writeItems depth rest
termination_by structural items

/-- The texts of the entries of a mapping. -/
def writeEntries (depth : Nat) (entries : List (String × Value)) : List String :=
  match entries with
  | [] => []
  | (key, v) :: rest => (stringText key ++ ": " ++ writeAt depth v) :: writeEntries depth rest
termination_by structural entries

end

/-- The text of a value. -/
def write (v : Value) : String := writeAt 0 v

end ConfigTree.Json
