import ConfigTree.Number.Word
import ConfigTree.Yaml.Mark

/-!
# Reading scalars

The ways to write a text: plain, in single or double quotes, and as a block.  A line
break inside is folded: alone it becomes a space, and of several the first one is
dropped.  White space around it is dropped too.

## Main definitions

* `plainScalar`, `quotedScalar`, `blockScalar`.
-/

namespace ConfigTree.Yaml

/-! ### White space inside of a text -/

/-- White space that has been met and not yet been put into the text.  The lists are held back to
front. -/
structure Gap where
  /-- Blanks before any line break. -/
  blanks : List Char
  /-- Whether there has been a line break. -/
  broken : Bool
  /-- The first line break, unless it was escaped. -/
  first : Option Char
  /-- The line breaks after the first. -/
  more : List Char

namespace Gap

/-- No white space. -/
def none : Gap := ⟨[], false, Option.none, []⟩

/-- An escaped line break. -/
def escaped : Gap := ⟨[], true, Option.none, []⟩

/-- Whether there is no white space. -/
def isNone (g : Gap) : Bool := g.blanks.isEmpty && !g.broken

/-- One blank more; blanks after a line break do not count. -/
def addBlank (g : Gap) (c : Char) : Gap :=
  if g.broken then g else { g with blanks := c :: g.blanks }

/-- One line break more; blanks before it do not count. -/
def addBreak (g : Gap) (c : Char) : Gap :=
  if g.broken then { g with more := c :: g.more } else ⟨[], true, some c, []⟩

/-- A text, held back to front, with the white space after it folded. -/
def foldInto (g : Gap) (text : List Char) : List Char :=
  if g.broken then
    match g.first with
    | some '\n' => if g.more.isEmpty then ' ' :: text else g.more ++ text
    | some c => g.more ++ c :: text
    | Option.none => g.more ++ text
  else g.blanks ++ text

end Gap

/-! ### Plain texts -/

/-- The characters that end or divide collections in brackets. -/
def isFlowChar (c : Char) : Bool :=
  c == ',' || c == '[' || c == ']' || c == '\x7b' || c == '\x7d'

/-- A colon that ends a plain text. -/
def isColonBeforeBlank : List Char → Bool
  | ':' :: cs => isBlankOrEnd cs
  | _ => false

/-- A colon that cannot stand in a plain text between brackets. -/
def isColonBeforeFlow : List Char → Bool
  | ':' :: c :: _ => isFlowChar c || c == '?'
  | _ => false

/-- Whether a plain text with a margin ends before `cs`, where a gap comes first. -/
def endsAfterGap (margin : Int) (inFlow : Bool) (m : Mark) (cs : List Char) : Bool :=
  (!inFlow && (m.column : Int) < margin) || (m.column == 0 && atMarker cs) || cs.head? == some '#'

/-- A plain text from its middle on: the text so far and the gap after it.  The result says
whether the text is followed by a line break. -/
def plainFrom (margin : Int) (inFlow : Bool) (text : List Char) (gap : Gap) (m : Mark) :
    List Char → Except Fault (String × Bool × Cursor)
  | [] => .ok (String.ofList text.reverse, gap.broken, ⟨[], m⟩)
  | c :: cs =>
    if isBlank c then
      if gap.broken && (m.column : Int) < margin && c == '\t' then .error .tab
      else plainFrom margin inFlow text (gap.addBlank c) (m.after c) cs
    else if isBreak c then plainFrom margin inFlow text (gap.addBreak c) (m.after c) cs
    else if !gap.isNone && endsAfterGap margin inFlow m (c :: cs) then
      .ok (String.ofList text.reverse, gap.broken, ⟨c :: cs, m⟩)
    else if inFlow && isColonBeforeFlow (c :: cs) then .error .unexpected
    else if isColonBeforeBlank (c :: cs) || (inFlow && isFlowChar c) then
      .ok (String.ofList text.reverse, gap.broken, ⟨c :: cs, m⟩)
    else plainFrom margin inFlow (c :: gap.foldInto text) .none (m.after c) cs

/-- A plain text whose lines stand right of a margin. -/
def plainScalar (margin : Int) (inFlow : Bool) (c : Cursor) :
    Except Fault (String × Bool × Cursor) :=
  plainFrom margin inFlow [] .none c.mark c.rest

/-! ### Quoted texts -/

/-- A character by the digits of its number. -/
def hexChar? (digits : Nat) (cs : List Char) : Option Char :=
  if cs.length < digits then none
  else
    match Number.digits? 16 (cs.take digits) with
    | some n => if h : n.isValidChar then some (Char.ofNatAux n h) else none
    | none => none

/-- The character that an escape stands for, and how many characters it takes after the first
one. -/
def escape? : List Char → Option (Char × Nat)
  | '0' :: _ => some ('\x00', 0)
  | 'a' :: _ => some ('\x07', 0)
  | 'b' :: _ => some ('\x08', 0)
  | 't' :: _ => some ('\t', 0)
  | '\t' :: _ => some ('\t', 0)
  | 'n' :: _ => some ('\n', 0)
  | 'v' :: _ => some ('\x0b', 0)
  | 'f' :: _ => some ('\x0c', 0)
  | 'r' :: _ => some ('\r', 0)
  | 'e' :: _ => some ('\x1b', 0)
  | ' ' :: _ => some (' ', 0)
  | '"' :: _ => some ('"', 0)
  | '/' :: _ => some ('/', 0)
  | '\\' :: _ => some ('\\', 0)
  | 'N' :: _ => some ('\u0085', 0)
  | '_' :: _ => some ('\u00a0', 0)
  | 'L' :: _ => some ('\u2028', 0)
  | 'P' :: _ => some ('\u2029', 0)
  | 'x' :: cs => (hexChar? 2 cs).map (·, 2)
  | 'u' :: cs => (hexChar? 4 cs).map (·, 4)
  | 'U' :: cs => (hexChar? 8 cs).map (·, 8)
  | _ => none

/-- A quoted text from its middle on, after `passing` characters that are read already. -/
def quotedFrom (double : Bool) (passing : Nat) (text : List Char) (gap : Gap) (m : Mark) :
    List Char → Except Fault (String × Cursor)
  | [] => .error .unterminated
  | c :: cs =>
    if 0 < passing then quotedFrom double (passing - 1) text gap (m.after c) cs
    else if isBlank c then quotedFrom double 0 text (gap.addBlank c) (m.after c) cs
    else if isBreak c then quotedFrom double 0 text (gap.addBreak c) (m.after c) cs
    else if m.column == 0 && atMarker (c :: cs) then .error .markerInQuotes
    else
      let text := gap.foldInto text
      if double then
        if c == '"' then .ok (String.ofList text.reverse, ⟨cs, m.after c⟩)
        else if c == '\\' then
          if cs.head?.any isBreak then quotedFrom double 1 text .escaped (m.after c) cs
          else
            match escape? cs with
            | some (e, n) => quotedFrom double (n + 1) (e :: text) .none (m.after c) cs
            | none => .error .escape
        else quotedFrom double 0 (c :: text) .none (m.after c) cs
      else if c == '\'' then
        if cs.head? == some '\'' then quotedFrom double 1 ('\'' :: text) .none (m.after c) cs
        else .ok (String.ofList text.reverse, ⟨cs, m.after c⟩)
      else quotedFrom double 0 (c :: text) .none (m.after c) cs

/-- A text in quotes, the cursor before the first. -/
def quotedScalar (double : Bool) (c : Cursor) : Except Fault (String × Cursor) :=
  let c := c.advance 1
  quotedFrom double 0 [] .none c.mark c.rest

/-! ### Blocks of text -/

/-- What becomes of the line breaks at the end of a block. -/
inductive Chomp
  /-- All go. -/
  | strip
  /-- The first one stays. -/
  | clip
  /-- All stay. -/
  | keep
  deriving DecidableEq

/-- A block of text from its middle on.  The lists are held back to front. -/
structure Block where
  /-- The margin, once it is known. -/
  margin : Option Nat
  /-- The greatest column met while it is not known. -/
  widest : Nat
  /-- The text. -/
  text : List Char
  /-- The line break after the last line with text. -/
  last : List Char
  /-- The line breaks after that. -/
  more : List Char
  /-- Whether the last line with text starts with a blank. -/
  indented : Bool

namespace Block

/-- Whether a column is left of the margin, or may be. -/
def isLeft (b : Block) (column : Nat) : Bool := b.margin.all fun n => column < n

/-- The block with its margin, which is right of `outer`. -/
def settled (b : Block) (outer : Int) : Block :=
  match b.margin with
  | some _ => b
  | none => { b with margin := some (max (max b.widest (outer + 1).toNat) 1) }

/-- The block before a new line that starts with `c`.  A folded block joins two lines that start
with no blank. -/
def join (b : Block) (literal : Bool) (c : Char) : Block :=
  let text :=
    if !literal && b.last == ['\n'] && !b.indented && !isBlank c then
      if b.more.isEmpty then ' ' :: b.text else b.text
    else b.last ++ b.text
  { b with text := b.more ++ text, last := [], more := [], indented := isBlank c }

/-- The whole text. -/
def finish (b : Block) (chomp : Chomp) : String :=
  let text := match chomp with
    | .strip => b.text
    | .clip => b.last ++ b.text
    | .keep => b.more ++ b.last ++ b.text
  String.ofList text.reverse

end Block

/-- A block of text from a place in its margin on, or in a line. -/
def blockFrom (literal : Bool) (chomp : Chomp) (outer : Int) (inLine : Bool) (b : Block)
    (m : Mark) : List Char → Except Fault (String × Cursor)
  | [] => .ok (b.finish chomp, ⟨[], m⟩)
  | c :: cs =>
    if inLine then
      if isBreak c then
        blockFrom literal chomp outer false { b with last := [c], more := [] } (m.after c) cs
      else blockFrom literal chomp outer true { b with text := c :: b.text } (m.after c) cs
    else if c == ' ' && b.isLeft m.column then
      blockFrom literal chomp outer false { b with widest := max b.widest (m.column + 1) }
        (m.after c) cs
    else if c == '\t' && b.isLeft m.column then .error .tab
    else if isBreak c then
      blockFrom literal chomp outer false { b with more := c :: b.more } (m.after c) cs
    else
      let b := b.settled outer
      if b.margin == some m.column then
        let b := b.join literal c
        blockFrom literal chomp outer true { b with text := c :: b.text } (m.after c) cs
      else .ok (b.finish chomp, ⟨c :: cs, m⟩)

/-- A sign for what becomes of the line breaks at the end. -/
def chomp? : Char → Option Chomp
  | '+' => some .keep
  | '-' => some .strip
  | _ => none

/-- A width of the margin, zero included. -/
def width? (c : Char) : Option Nat := if c.isDigit then some (c.toNat - 48) else none

/-- What follows the sign of a block of text: chomping and width of the margin in either
order. -/
def blockHeader (cs : List Char) : Chomp × Option Nat × Nat :=
  match cs with
  | [] => (.clip, none, 0)
  | c :: rest =>
    match chomp? c with
    | some chomp =>
      match rest.head?.bind width? with
      | some n => (chomp, some n, 2)
      | none => (chomp, none, 1)
    | none =>
      match width? c with
      | some n =>
        match rest.head?.bind chomp? with
        | some chomp => (chomp, some n, 2)
        | none => (.clip, some n, 1)
      | none => (.clip, none, 0)

/-- A block of text, the cursor before its sign, inside of a block at column `outer`. -/
def blockScalar (literal : Bool) (outer : Int) (c : Cursor) : Except Fault (String × Cursor) :=
  let c := c.advance 1
  let (chomp, width, n) := blockHeader c.rest
  if width == some 0 then .error .header
  else
    let c := (c.advance n).skipBlanks.skipComment
    if isBreakOrEnd c.rest then
      let c := c.skipBreak
      let margin := width.map fun n => if 0 ≤ outer then outer.toNat + n else n
      blockFrom literal chomp outer false ⟨margin, 0, [], [], [], false⟩ c.mark c.rest
    else .error .header

end ConfigTree.Yaml
