import ConfigTree.Yaml.Scalar
import ConfigTree.Yaml.Token

/-!
# Tokens and layout

A text is taken apart from left to right.  Outside of brackets the margin tells where
blocks begin and end, and a text or collection turns out to be a key only when the
colon after it is met: the tokens that open a block and announce the key are then put
in where the key began.

## Main definitions

* `Layout` — what is known at a place of the text.
* `Layout.step` — one more token, with those that the layout brings.
* `tokens` — all tokens of a text.
-/

namespace ConfigTree.Yaml

/-- A place where a key may have begun. -/
structure KeyStart where
  /-- Whether there must be a key, since it stands at the margin of a mapping. -/
  required : Bool
  /-- How many tokens come before. -/
  index : Nat
  /-- The place. -/
  mark : Mark

/-- What is known at a place of the text. -/
structure Layout where
  /-- The place. -/
  cursor : Cursor
  /-- The tokens so far, the last first. -/
  done : List Token
  /-- How many they are. -/
  count : Nat
  /-- The column of the block around, or less than none. -/
  column : Int
  /-- The columns of the blocks around that one, the innermost first. -/
  outer : List Int
  /-- Whether a key can begin here. -/
  keyAllowed : Bool
  /-- Where a key may have begun, at each level of brackets, the innermost first; the last one is
  outside of all brackets. -/
  starts : List (Option KeyStart)

namespace Layout

/-- The start of a text. -/
def start (cs : List Char) : Layout := ⟨⟨cs, Mark.start⟩, [], 0, -1, [], true, [none]⟩

/-- Whether the place is inside of brackets. -/
def inFlow (l : Layout) : Bool := 1 < l.starts.length

/-- One more token at the end. -/
def push (l : Layout) (t : Token) : Layout := { l with done := t :: l.done, count := l.count + 1 }

/-- One more token, with `index` tokens before it. -/
def insertAt (l : Layout) (index : Nat) (t : Token) : Layout :=
  let after := l.count - index
  { l with done := l.done.take after ++ t :: l.done.drop after, count := l.count + 1 }

/-- The place moved on. -/
def moveTo (l : Layout) (c : Cursor) : Layout := { l with cursor := c }

/-- The place moved on by characters that break no line. -/
def advance (l : Layout) (n : Nat) : Layout := l.moveTo (l.cursor.advance n)

/-- Whether a key can begin at the next place. -/
def allow (l : Layout) (allowed : Bool) : Layout := { l with keyAllowed := allowed }

/-! ### Keys -/

/-- A key that may have begun is given up. -/
def dropKey (l : Layout) : Except Fault Layout :=
  match l.starts with
  | some k :: rest =>
    if k.required then .error .missingColon else .ok { l with starts := none :: rest }
  | _ => .ok l

/-- A key may begin here, if one is allowed. -/
def openKey (l : Layout) : Except Fault Layout := do
  if l.keyAllowed then
    let required := !l.inFlow && l.column == (l.cursor.mark.column : Int)
    let l ← l.dropKey
    return { l with starts := some ⟨required, l.count, l.cursor.mark⟩ :: l.starts.drop 1 }
  else return l

/-- A key must be on one line and no longer than 1024 characters. -/
def isStale (m : Mark) (k : KeyStart) : Bool :=
  k.mark.line < m.line || k.mark.offset + 1024 < m.offset

/-- Keys that have begun too far back are given up. -/
def dropStale (l : Layout) : Except Fault Layout :=
  let stale (k : Option KeyStart) := k.any (isStale l.cursor.mark)
  if l.starts.any fun k => stale k && k.any KeyStart.required then .error .missingColon
  else .ok { l with starts := l.starts.map fun k => if stale k then none else k }

/-! ### Blocks -/

/-- A block begins at a column, unless it is the one around; its token gets `index` tokens before
it. -/
def indentTo (l : Layout) (column : Nat) (index : Nat) (t : Token) : Layout :=
  if l.inFlow then l
  else if l.column < (column : Int) then
    { l.insertAt index t with column := column, outer := l.column :: l.outer }
  else l

/-- All blocks end that begin right of a column; the columns around the innermost are given. -/
def closeBlocks (l : Layout) (column : Int) : List Int → Layout
  | [] => l
  | outer :: rest =>
    if column < l.column then
      closeBlocks { l.push .blockEnd with column := outer, outer := rest } column rest
    else l

/-- All blocks end that begin right of a column. -/
def unindentTo (l : Layout) (column : Int) : Layout :=
  if l.inFlow then l else l.closeBlocks column l.outer

/-! ### White space -/

/-- The place after white space and comments, and whether a key can begin there.  Outside of
brackets one can after a line break; where none can, tabs count as white space. -/
def skipFrom (inFlow inComment allowed : Bool) (m : Mark) : List Char → Cursor × Bool
  | [] => (⟨[], m⟩, allowed)
  | c :: cs =>
    if isBreak c then skipFrom inFlow false (allowed || !inFlow) (m.after c) cs
    else if inComment then skipFrom inFlow true allowed (m.after c) cs
    else if c == ' ' || (c == '\t' && (inFlow || !allowed)) then
      skipFrom inFlow false allowed (m.after c) cs
    else if c == '#' then skipFrom inFlow true allowed (m.after c) cs
    else (⟨c :: cs, m⟩, allowed)

/-- The layout after white space and comments. -/
def skipSpace (l : Layout) : Layout :=
  let (cursor, allowed) := skipFrom l.inFlow false l.keyAllowed l.cursor.mark l.cursor.rest
  { l with cursor := cursor, keyAllowed := allowed }

/-! ### Tags and directives -/

/-- The characters of a tag that stand for themselves. -/
def isTagChar (c : Char) : Bool :=
  isWordChar c || [';', '/', '?', ':', '@', '&', '=', '+', '$', '.', '!', '~', '*', '\'', '(',
    ')'].contains c

/-- The bytes that percent signs with two digits each write, and what follows them. -/
def percentBytes : List Char → Option (List UInt8 × List Char)
  | '%' :: a :: b :: cs => do
    let n := 16 * (← Text.digitValue? a) + (← Text.digitValue? b)
    let (bytes, rest) ← percentBytes cs
    return (UInt8.ofNat n :: bytes, rest)
  | '%' :: _ => none
  | cs => some ([], cs)

/-- How many bytes a character has that starts with this one. -/
def byteCount? (b : UInt8) : Option Nat :=
  if b < 0x80 then some 1
  else if b &&& 0xE0 == 0xC0 then some 2
  else if b &&& 0xF0 == 0xE0 then some 3
  else if b &&& 0xF8 == 0xF0 then some 4
  else none

/-- A percent sign with digits as a character, and how many characters it takes. -/
def percentChar? (cs : List Char) : Option (Char × Nat) := do
  let '%' :: a :: b :: _ := cs | none
  let n ← byteCount? (UInt8.ofNat (16 * (← Text.digitValue? a) + (← Text.digitValue? b)))
  let (bytes, rest) ← percentBytes (cs.take (3 * n))
  if bytes.length == n && rest.isEmpty then
    let text ← String.fromUTF8? ⟨bytes.toArray⟩
    return (← text.toList.head?, 3 * n)
  else none

/-- The rest of a tag, back to front; `verbatim` ones can hold commas and brackets. -/
def tagFrom (verbatim : Bool) (passing : Nat) (text : List Char) (m : Mark) :
    List Char → Except Fault (List Char × Cursor)
  | [] => .ok (text, ⟨[], m⟩)
  | c :: cs =>
    if 0 < passing then tagFrom verbatim (passing - 1) text (m.after c) cs
    else if c == '%' then
      match percentChar? (c :: cs) with
      | some (e, n) => tagFrom verbatim (n - 1) (e :: text) (m.after c) cs
      | none => .error .tag
    else if isTagChar c || (verbatim && (c == ',' || c == '[' || c == ']')) then
      tagFrom verbatim 0 (c :: text) (m.after c) cs
    else .ok (text, ⟨c :: cs, m⟩)

/-- The rest of a tag that begins with given characters, which must not be empty. -/
def tagRest (verbatim : Bool) (begin : List Char) (c : Cursor) :
    Except Fault (String × Cursor) := do
  let (text, rest) ← tagFrom verbatim 0 begin.tail.reverse c.mark c.rest
  if begin.isEmpty && text.isEmpty then throw .tag
  else return (String.ofList text.reverse, rest)

/-- The first part of a tag: an exclamation mark, word characters, perhaps another mark. -/
def tagHandle (c : Cursor) : Except Fault (List Char × Cursor) :=
  match c.rest with
  | '!' :: _ =>
    let (name, rest) := (c.advance 1).span isWordChar
    if rest.peek? == some '!' then .ok ('!' :: name ++ ['!'], rest.advance 1)
    else .ok ('!' :: name, rest)
  | _ => .error .tag

/-- A tag, the cursor before it. -/
def tag (c : Cursor) : Except Fault (Token × Cursor) := do
  match c.rest with
  | '!' :: '<' :: _ =>
    let (text, c) ← tagRest true [] (c.advance 2)
    if c.peek? == some '>' then return (.tag "" text, c.advance 1) else throw .tag
  | _ =>
    let (handle, c) ← tagHandle c
    if 1 < handle.length && handle.getLast? == some '!' then
      let (text, c) ← tagRest false [] c
      return (.tag (String.ofList handle) text, c)
    else
      let (text, c) ← tagRest false handle c
      if text.isEmpty then return (.tag "" "!", c) else return (.tag "!" text, c)

/-- A number of a version, of at most nine digits. -/
def versionNumber (c : Cursor) : Except Fault (Nat × Cursor) :=
  let (digits, rest) := c.span Char.isDigit
  if digits.isEmpty || 9 < digits.length then .error .directive
  else .ok (digits.foldl (fun n d => 10 * n + (d.toNat - 48)) 0, rest)

/-- The version of a directive. -/
def version (c : Cursor) : Except Fault (Token × Cursor) := do
  let (major, c) ← versionNumber c.skipBlanks
  if c.peek? == some '.' then
    let (minor, c) ← versionNumber (c.advance 1)
    return (.version major minor, c)
  else throw .directive

/-- The abbreviation of a directive. -/
def shorthand (c : Cursor) : Except Fault (Token × Cursor) := do
  let (handle, c) ← tagHandle c.skipBlanks
  if handle != ['!'] && !(1 < handle.length && handle.getLast? == some '!') then throw .directive
  else if !(c.peek?.any isBlank) then throw .directive
  else
    let (text, c) ← tagRest true [] c.skipBlanks
    if isBlankOrEnd c.rest then return (.shorthand (String.ofList handle) text, c)
    else throw .directive

/-- A directive, the cursor before its percent sign. -/
def directive (c : Cursor) : Except Fault (Token × Cursor) := do
  let (name, c) := (c.advance 1).span isWordChar
  if !isBlankOrEnd c.rest then throw .directive
  else
    let (token, c) ← match String.ofList name with
      | "YAML" => version c
      | "TAG" => shorthand c
      | _ => throw .directive
    let c := c.skipBlanks.skipComment
    if isBreakOrEnd c.rest then return (token, c.skipBreak) else throw .directive

/-- The name after the sign of an anchor or alias. -/
def anchorName (c : Cursor) : Except Fault (String × Cursor) :=
  let (name, rest) := (c.advance 1).span isWordChar
  let ends := isBlankOrEnd rest.rest
    || rest.peek?.any fun c => ['?', ':', ',', ']', '\x7d', '%', '@', '\x60'].contains c
  if name.isEmpty || !ends then .error .anchor else .ok (String.ofList name, rest)

/-! ### Steps -/

/-- The end of the text. -/
def stop (l : Layout) : Except Fault Layout := do
  let l ← (l.unindentTo (-1)).dropKey
  return (l.allow false).push .stop

/-- A directive. -/
def stepDirective (l : Layout) : Except Fault Layout := do
  let l ← (l.unindentTo (-1)).dropKey
  let (token, c) ← directive l.cursor
  return ((l.allow false).moveTo c).push token

/-- A marker between documents. -/
def stepMarker (l : Layout) (t : Token) : Except Fault Layout := do
  let l ← (l.unindentTo (-1)).dropKey
  return ((l.allow false).advance 3).push t

/-- A left bracket or brace. -/
def stepOpen (l : Layout) (t : Token) : Except Fault Layout := do
  let l ← l.openKey
  return (({ l with starts := none :: l.starts }.allow true).advance 1).push t

/-- A right bracket or brace. -/
def stepClose (l : Layout) (t : Token) : Except Fault Layout := do
  let l ← l.dropKey
  let l := if l.inFlow then { l with starts := l.starts.drop 1 } else l
  return ((l.allow false).advance 1).push t

/-- A comma. -/
def stepComma (l : Layout) : Except Fault Layout := do
  let l ← l.dropKey
  return ((l.allow true).advance 1).push .comma

/-- The hyphen before an item. -/
def stepItem (l : Layout) : Except Fault Layout := do
  if !l.inFlow && !l.keyAllowed then throw .misplaced
  else
    let l ← (l.indentTo l.cursor.mark.column l.count .blockList).dropKey
    return ((l.allow true).advance 1).push .item

/-- The question mark before a key. -/
def stepKey (l : Layout) : Except Fault Layout := do
  if !l.inFlow && !l.keyAllowed then throw .misplaced
  else
    let l ← (l.indentTo l.cursor.mark.column l.count .blockMap).dropKey
    return ((l.allow (!l.inFlow)).advance 1).push .key

/-- The colon before a value: what began before it on the line turns out to be a key. -/
def stepValue (l : Layout) : Except Fault Layout := do
  match l.starts with
  | some k :: rest =>
    let l := l.insertAt k.index .key
    let l := l.indentTo k.mark.column k.index .blockMap
    return (({ l with starts := none :: rest }.allow false).advance 1).push .value
  | _ =>
    if !l.inFlow && !l.keyAllowed then throw .misplaced
    else
      let l := l.indentTo l.cursor.mark.column l.count .blockMap
      return ((l.allow (!l.inFlow)).advance 1).push .value

/-- An anchor or alias. -/
def stepAnchor (l : Layout) (t : String → Token) : Except Fault Layout := do
  let l ← l.openKey
  let (name, c) ← anchorName l.cursor
  return ((l.allow false).moveTo c).push (t name)

/-- A tag. -/
def stepTag (l : Layout) : Except Fault Layout := do
  let l ← l.openKey
  let (token, c) ← tag l.cursor
  if isBlankOrEnd c.rest || (l.inFlow && c.peek? == some ',') then
    return ((l.allow false).moveTo c).push token
  else throw .tag

/-- A block of text. -/
def stepBlock (l : Layout) (literal : Bool) : Except Fault Layout := do
  let l ← l.dropKey
  let (text, c) ← blockScalar literal l.column l.cursor
  return ((l.allow true).moveTo c).push (.scalar text false)

/-- A quoted text. -/
def stepQuoted (l : Layout) (double : Bool) : Except Fault Layout := do
  let l ← l.openKey
  let (text, c) ← quotedScalar double l.cursor
  return ((l.allow false).moveTo c).push (.scalar text false)

/-- A plain text; a key can begin after it if a line break follows. -/
def stepPlain (l : Layout) : Except Fault Layout := do
  let l ← l.openKey
  let (text, broken, c) ← plainScalar (l.column + 1) l.inFlow l.cursor
  return ((l.allow broken).moveTo c).push (.scalar text true)

/-- Whether a character has a meaning of its own at the start of a node. -/
def isIndicator (c : Char) : Bool :=
  isFlowChar c
    || ['-', '?', ':', '#', '&', '*', '!', '|', '>', '\'', '"', '%', '@', '\x60'].contains c

/-- Whether a plain text begins here. -/
def startsPlain (inFlow : Bool) : List Char → Bool
  | [] => false
  | c :: cs =>
    !(isBlankOrEnd [c] || isIndicator c)
      || (c == '-' && !(cs.head?.any isBlank))
      || (!inFlow && (c == '?' || c == ':') && !isBlankOrEnd cs)

/-- Whether a key or value is shown by a sign: between brackets any such sign does. -/
def showsEntry (inFlow : Bool) (cs : List Char) : Bool := inFlow || isBlankOrEnd cs

/-- The token that begins with a character outside of white space. -/
def token (l : Layout) (c : Char) (cs : List Char) : Except Fault Layout :=
  let first := l.cursor.mark.column == 0
  if first && c == '%' then l.stepDirective
  else if first && c == '-' && atMarker (c :: cs) then l.stepMarker .documentStart
  else if first && c == '.' && atMarker (c :: cs) then l.stepMarker .documentEnd
  else if c == '[' then l.stepOpen .listStart
  else if c == '\x7b' then l.stepOpen .mapStart
  else if c == ']' then l.stepClose .listEnd
  else if c == '\x7d' then l.stepClose .mapEnd
  else if c == ',' then l.stepComma
  else if c == '-' && isBlankOrEnd cs then l.stepItem
  else if c == '?' && showsEntry l.inFlow cs then l.stepKey
  else if c == ':' && showsEntry l.inFlow cs then l.stepValue
  else if c == '*' then l.stepAnchor .alias
  else if c == '&' then l.stepAnchor .anchor
  else if c == '!' then l.stepTag
  else if c == '|' && !l.inFlow then l.stepBlock true
  else if c == '>' && !l.inFlow then l.stepBlock false
  else if c == '\'' then l.stepQuoted false
  else if c == '"' then l.stepQuoted true
  else if startsPlain l.inFlow (c :: cs) then l.stepPlain
  else .error .unexpected

/-- One more token, with those that the layout brings. -/
def step (l : Layout) : Except Fault Layout := do
  let l ← l.skipSpace.dropStale
  match l.cursor.rest with
  | [] => l.stop
  | c :: cs => (l.unindentTo l.cursor.mark.column).token c cs

/-- The layout at the end of the text, at most `n` tokens on. -/
def toEnd : Nat → Layout → Except Fault Layout
  | 0, l => .ok l
  | n + 1, l =>
    match l.done with
    | .stop :: _ => .ok l
    | _ => do toEnd n (← l.step)

end Layout

/-- The text without the mark that may open it, with equal line breaks. -/
def prepare (cs : List Char) : Except Fault (List Char) :=
  let cs := if cs.head? == some '\ufeff' then cs.tail else cs
  match cs.find? fun c => !isPrintable c with
  | some c => .error (.character c)
  | none => .ok (sameBreaks cs)

/-- The tokens of a text.  Every step but the last reads a character. -/
def tokens (text : String) : Except Fault (List Token) := do
  let cs ← prepare text.toList
  let l ← Layout.toEnd (cs.length + 1) (Layout.start cs)
  return l.done.reverse

end ConfigTree.Yaml
