import ConfigTree.Json.Number
import ConfigTree.Text.Blank

/-!
# Reading JSON

A text is read from left to right.  Nesting is limited; inside of one collection a
budget larger than the text bounds the number of items.

## Main definitions

* `Reader` — a reader of the start of a text.
* `read` — the value of a text.
-/

namespace ConfigTree.Json

/-- Reads something at the start of a text and leaves what follows it. -/
abbrev Reader (α : Type) := List Char → Except Fault (α × List Char)

/-- White space between tokens. -/
def isSpace (c : Char) : Bool := c == ' ' || c == '\n' || c == '\t' || c == '\r'

/-- What follows white space. -/
def skipSpace (cs : List Char) : List Char := cs.dropWhile isSpace

/-! ### Strings -/

/-- The number that four hexadecimal digits write. -/
def unit? (cs : List Char) : Option Nat :=
  if cs.length < 4 then none else Number.digits? 16 (cs.take 4)

/-- A character by its number. -/
def char? (n : Nat) : Option Char := if h : n.isValidChar then some (Char.ofNatAux n h) else none

/-- The character of one or two escaped units, and how many characters they take after the
letter. -/
def escapedUnits? (cs : List Char) : Option (Char × Nat) := do
  let high ← unit? cs
  if 0xD800 ≤ high && high ≤ 0xDBFF then
    match cs.drop 4 with
    | '\\' :: 'u' :: rest =>
      let low ← unit? rest
      if 0xDC00 ≤ low && low ≤ 0xDFFF then
        return (← char? (0x10000 + (high - 0xD800) * 1024 + (low - 0xDC00)), 10)
      else none
    | _ => none
  else return (← char? high, 4)

/-- The character that an escape stands for, and how many characters it takes after the first
one. -/
def escape? : List Char → Option (Char × Nat)
  | '"' :: _ => some ('"', 0)
  | '\\' :: _ => some ('\\', 0)
  | '/' :: _ => some ('/', 0)
  | 'b' :: _ => some ('\x08', 0)
  | 'f' :: _ => some ('\x0c', 0)
  | 'n' :: _ => some ('\n', 0)
  | 'r' :: _ => some ('\r', 0)
  | 't' :: _ => some ('\t', 0)
  | 'u' :: cs => escapedUnits? cs
  | _ => none

/-- A string from its middle on, after `passing` characters that are read already. -/
def stringFrom (passing : Nat) (text : List Char) : Reader String
  | [] => .error .ended
  | c :: cs =>
    if 0 < passing then stringFrom (passing - 1) text cs
    else if c == '"' then .ok (String.ofList text.reverse, cs)
    else if c == '\\' then
      match escape? cs with
      | some (e, n) => stringFrom (n + 1) (e :: text) cs
      | none => .error .string
    else if c.toNat < 0x20 then .error .string
    else stringFrom 0 (c :: text) cs

/-! ### Collections -/

/-- The items of a list after those `done`, the last first. -/
def itemsWith (read : Reader Value) : Nat → List Value → Reader Value
  | 0, _, _ => .error .ended
  | n + 1, done, cs => do
    let (v, cs) ← read (skipSpace cs)
    match skipSpace cs with
    | ',' :: cs => itemsWith read n (v :: done) cs
    | ']' :: cs => return (.list (v :: done).reverse, cs)
    | [] => throw .ended
    | _ => throw .unexpected

/-- The entries of a mapping after those `done`.  Of two entries with one key the later value
stands in the earlier place. -/
def entriesWith (read : Reader Value) : Nat → Mapping → Reader Value
  | 0, _, _ => .error .ended
  | n + 1, done, cs => do
    match skipSpace cs with
    | '"' :: cs =>
      let (key, cs) ← stringFrom 0 [] cs
      match skipSpace cs with
      | ':' :: cs =>
        let (v, cs) ← read (skipSpace cs)
        match skipSpace cs with
        | ',' :: cs => entriesWith read n (done.insert key v) cs
        | '\x7d' :: cs => return (.map (done.insert key v), cs)
        | [] => throw .ended
        | _ => throw .unexpected
      | [] => throw .ended
      | _ => throw .unexpected
    | [] => throw .ended
    | _ => throw .unexpected

/-- The rest of a list after its bracket. -/
def listRest (inner : Option (Reader Value)) : Reader Value := fun cs =>
  match inner with
  | none => .error .nesting
  | some read =>
    match skipSpace cs with
    | ']' :: cs => .ok (.list [], cs)
    | cs => itemsWith read cs.length [] cs

/-- The rest of a mapping after its brace. -/
def mapRest (inner : Option (Reader Value)) : Reader Value := fun cs =>
  match inner with
  | none => .error .nesting
  | some read =>
    match skipSpace cs with
    | '\x7d' :: cs => .ok (.map [], cs)
    | cs => entriesWith read cs.length [] cs

/-- A value; `inner` reads what it holds. -/
def valueWith (inner : Option (Reader Value)) : Reader Value
  | [] => .error .ended
  | 'n' :: 'u' :: 'l' :: 'l' :: cs => .ok (.null, cs)
  | 't' :: 'r' :: 'u' :: 'e' :: cs => .ok (.bool true, cs)
  | 'f' :: 'a' :: 'l' :: 's' :: 'e' :: cs => .ok (.bool false, cs)
  | '"' :: cs => do
    let (s, cs) ← stringFrom 0 [] cs
    return (.str s, cs)
  | '[' :: cs => listRest inner cs
  | '\x7b' :: cs => mapRest inner cs
  | cs => if cs.head?.any fun c => c == '-' || c.isDigit then scanNumber cs else .error .unexpected

/-- A value in which collections are nested no deeper than a depth. -/
def valueWithin : Nat → Reader Value
  | 0 => valueWith none
  | depth + 1 => valueWith (some (valueWithin depth))

/-- How deep collections may be nested. -/
def maxNesting : Nat := 127

/-- The value of a text; a blank one has none. -/
def read (text : String) : Except Fault Value :=
  if Text.isAllBlank text.toList then .ok .null
  else do
    let (v, rest) ← valueWithin maxNesting (skipSpace text.toList)
    if (skipSpace rest).isEmpty then return v else throw .unexpected

end ConfigTree.Json
