import ConfigTree.Number.Decimal
import ConfigTree.Number.Word
import ConfigTree.Text.Blank
import ConfigTree.Value.Text
import ConfigTree.Yaml.Event
import ConfigTree.Yaml.Layout

/-!
# Reading YAML

What plain texts mean, and the value of a document.  An alias is replaced by the node
that has its anchor; nesting and repetition are limited, so that a short text cannot
have an endless value.

Anchors are numbered by how many names there were before.  A name that is given again
makes the count fall behind, and then a later node can take over a number, also for
the aliases before it.

## Main definitions

* `plainValue` — the value of a plain text.
* `valueOf` — the value of events.
* `read` — the value of a text.
-/

namespace ConfigTree.Yaml

/-! ### Plain texts -/

/-- The word for nothing. -/
def isNullWord (s : String) : Bool := s == "null" || s == "Null" || s == "NULL" || s == "~"

/-- The words for truth values. -/
def boolWord? (s : String) : Option Bool :=
  if s == "true" || s == "True" || s == "TRUE" then some true
  else if s == "false" || s == "False" || s == "FALSE" then some false
  else none

/-- Digits with a zero before them, perhaps with a sign: they are no number. -/
def isPadded (cs : List Char) : Bool :=
  let cs := match cs with
    | '-' :: rest => rest
    | '+' :: rest => rest
    | _ => cs
  match cs with
  | '0' :: d :: rest => (d :: rest).all Char.isDigit
  | _ => false

/-- The number of a text without sign: a base can be named. -/
def unsigned? (cs : List Char) : Option Nat :=
  match cs with
  | '0' :: 'x' :: rest => Number.digits? 16 rest
  | '0' :: 'o' :: rest => Number.digits? 8 rest
  | '0' :: 'b' :: rest => Number.digits? 2 rest
  | _ => Number.digits? 10 cs

/-- The whole number of a text. -/
def whole? (cs : List Char) : Option Int :=
  if isPadded cs then none
  else
    match cs with
    | '+' :: rest => (unsigned? rest).map Int.ofNat
    | '-' :: rest => (unsigned? rest).map fun n => -Int.ofNat n
    | _ => (unsigned? cs).map Int.ofNat

/-- A whole number that a value can be: one too large for a word becomes a float if it would be
a word without sign, and none if it would be one of twice the size. -/
def wholeValue (n : Int) : Option (Except Fault Value) :=
  match Number.word? n with
  | some w => some (.ok (.int w))
  | none =>
    if 0 ≤ n && n < 18446744073709551616 then some (.ok (.float (Number.ofRatio false n.toNat 1)))
    else if -170141183460469231731687303715884105728 ≤ n
        && n < 340282366920938463463374607431768211456 then some (.error .value)
    else none

/-- The words for numbers that have no digits. -/
def floatWord? (s : String) : Option Float :=
  match s with
  | ".inf" => some (1.0 / 0.0)
  | ".Inf" => some (1.0 / 0.0)
  | ".INF" => some (1.0 / 0.0)
  | "+.inf" => some (1.0 / 0.0)
  | "+.Inf" => some (1.0 / 0.0)
  | "+.INF" => some (1.0 / 0.0)
  | "-.inf" => some (-1.0 / 0.0)
  | "-.Inf" => some (-1.0 / 0.0)
  | "-.INF" => some (-1.0 / 0.0)
  | ".nan" => some (0.0 / 0.0)
  | ".NaN" => some (0.0 / 0.0)
  | ".NAN" => some (0.0 / 0.0)
  | _ => none

/-- The float of a text: a word, or a decimal that is not too large. -/
def float? (s : String) : Option Float :=
  match floatWord? s with
  | some x => some x
  | none => (Number.readFloat? s.toList).filter Float.isFinite

/-- The whole number of a text as a value, unless it has none. -/
def intValue? (s : String) : Option (Except Fault Value) := (whole? s.toList).bind wholeValue

/-- The value of a plain text. -/
def plainValue (s : String) : Except Fault Value :=
  if s.isEmpty || isNullWord s then .ok .null
  else
    match boolWord? s with
    | some b => .ok (.bool b)
    | none =>
      match intValue? s with
      | some r => r
      | none =>
        if isPadded s.toList then .ok (.str s)
        else
          match float? s with
          | some x => .ok (.float x)
          | none => .ok (.str s)

/-- The start of the tags of the notation. -/
def coreTag (name : String) : String := "tag:yaml.org,2002:" ++ name

/-- A tag of a program's own, which no value has. -/
def isOwnTag (tag : String) : Bool := tag.toList.head? == some '!'

/-- The value of a text with a tag: the tag of a scalar has to fit, and any other makes it a
string. -/
def taggedValue (tag s : String) : Except Fault Value :=
  if isOwnTag tag then .error .value
  else if tag == coreTag "bool" then
    match boolWord? s with
    | some b => .ok (.bool b)
    | none => .error .value
  else if tag == coreTag "int" then (intValue? s).getD (.error .value)
  else if tag == coreTag "float" then
    match float? s with
    | some x => .ok (.float x)
    | none => .error .value
  else if tag == coreTag "null" then if isNullWord s then .ok .null else .error .value
  else .ok (.str s)

/-- The value of a text. -/
def scalarValue (p : Properties) (s : String) (plain : Bool) : Except Fault Value :=
  match p.tag with
  | some tag => taggedValue tag s
  | none => if plain then plainValue s else .ok (.str s)

/-! ### Anchors -/

/-- The numbers of anchors by name, and where in the events the nodes with these numbers are, the
latest first. -/
structure Anchors where
  /-- The numbers. -/
  numbers : Entries Nat
  /-- Where the nodes are. -/
  places : List (Nat × Nat)

/-- The node at a place has the given properties. -/
def Anchors.add (a : Anchors) (p : Properties) (place : Nat) : Anchors :=
  match p.anchor with
  | none => a
  | some name =>
    let n := a.numbers.length
    ⟨a.numbers.insert name n, (n, place) :: a.places⟩

/-- Events with numbers for references, those `done` held back to front, and the anchors of all of
them. -/
def link (a : Anchors) (place : Nat) (done : List (Event Nat)) :
    List (Event String) → Except Fault (List (Event Nat) × Anchors)
  | [] => .ok (done.reverse, a)
  | .alias name :: rest =>
    match a.numbers.get? name with
    | some n => link a (place + 1) (.alias n :: done) rest
    | none => .error (.unknownAlias name)
  | .scalar p s plain :: rest => link (a.add p place) (place + 1) (.scalar p s plain :: done) rest
  | .listStart p :: rest => link (a.add p place) (place + 1) (.listStart p :: done) rest
  | .listEnd :: rest => link a (place + 1) (.listEnd :: done) rest
  | .mapStart p :: rest => link (a.add p place) (place + 1) (.mapStart p :: done) rest
  | .mapEnd :: rest => link a (place + 1) (.mapEnd :: done) rest

/-- A document whose references are numbers. -/
structure Linked where
  /-- The events. -/
  events : List (Event Nat)
  /-- Where the nodes with anchors are. -/
  places : List (Nat × Nat)
  /-- How many events there are. -/
  size : Nat

/-- The document of events. -/
def Linked.ofEvents (es : List (Event String)) : Except Fault Linked := do
  let (events, anchors) ← link ⟨[], []⟩ 0 [] es
  return ⟨events, anchors.places, events.length⟩

/-- What follows from the node with a number. -/
def Linked.node (d : Linked) (n : Nat) : List (Event Nat) :=
  match d.places.lookup n with
  | some place => d.events.drop place
  | none => []

/-! ### Values -/

/-- What is left to read, and how many references have been followed. -/
structure Rest where
  /-- The events left. -/
  events : List (Event Nat)
  /-- The references followed. -/
  followed : Nat

/-- A value read off the front of the events. -/
abbrev ValueReader := Rest → Except Fault (Value × Rest)

/-- The items of a list after those `done`, the last first; the budget bounds their number. -/
def itemsWith (read : ValueReader) : Nat → List Value → ValueReader
  | 0, _, _ => .error .grammar
  | n + 1, done, r =>
    match r.events with
    | .listEnd :: rest => .ok (.list done.reverse, { r with events := rest })
    | _ => do
      let (v, r) ← read r
      itemsWith read n (v :: done) r

/-- The entries of a mapping after those `done`; the budget bounds their number.  Of two entries
with one key the later value stands in the earlier place. -/
def entriesWith (read : ValueReader) : Nat → Mapping → ValueReader
  | 0, _, _ => .error .grammar
  | n + 1, done, r =>
    match r.events with
    | .mapEnd :: rest => .ok (.map done, { r with events := rest })
    | _ => do
      let (k, r) ← read r
      let (v, r) ← read r
      entriesWith read n (done.insert k.keyText v) r

/-- A collection is read if its tag is not of a program's own and it is not too deep. -/
def enter (p : Properties) (inner : Option ValueReader) : Except Fault ValueReader :=
  match inner with
  | none => .error .nesting
  | some read => if p.tag.any isOwnTag then .error .value else .ok read

/-- A node that is no reference; `inner` reads what it holds. -/
def nodeWith (d : Linked) (inner : Option ValueReader) : ValueReader := fun r =>
  match r.events with
  | .scalar p s plain :: rest => do return (← scalarValue p s plain, { r with events := rest })
  | .listStart p :: rest => do itemsWith (← enter p inner) d.size [] { r with events := rest }
  | .mapStart p :: rest => do entriesWith (← enter p inner) d.size [] { r with events := rest }
  | _ => .error .grammar

/-- A node; `inner` reads what it holds.  There may be a hundred references for every event. -/
def stepWith (d : Linked) (inner : Option ValueReader) : ValueReader := fun r =>
  match r.events with
  | .alias n :: rest =>
    if 100 * d.size ≤ r.followed then .error .repetition
    else do
      let (v, s) ← nodeWith d inner ⟨d.node n, r.followed + 1⟩
      return (v, ⟨rest, s.followed⟩)
  | _ => nodeWith d inner r

/-- A node in which collections are nested no deeper than a depth. -/
def nodeWithin (d : Linked) : Nat → ValueReader
  | 0 => stepWith d none
  | depth + 1 => stepWith d (some (nodeWithin d depth))

/-- How deep collections may be nested. -/
def maxNesting : Nat := 128

/-- The value of events; without any it is absent. -/
def valueOf (es : List (Event String)) : Except Fault Value := do
  let d ← Linked.ofEvents es
  match d.events with
  | [] => return .null
  | _ => return (← nodeWithin d maxNesting ⟨d.events, 0⟩).1

/-- The value of a text. -/
def read (text : String) : Except Fault Value := do
  if Text.isAllBlank text.toList then return .null
  else valueOf (← events (← tokens text))

end ConfigTree.Yaml
