/-!
# Characters and places of YAML

A text is read after its line breaks have been made equal: a carriage return, with or
without a line feed, and the next-line character become line feeds, while the two
separators of Unicode stay what they are.

## Main definitions

* `isPrintable` — the characters that a text may hold.
* `isBlank`, `isBreak`, `isBlankOrEnd` — white space.
* `sameBreaks` — the text with equal line breaks.
* `Mark` — a place in a text; `Cursor` — a place with what follows it.
-/

namespace ConfigTree.Yaml

/-- What is wrong with a text. -/
inductive Fault
  /-- A character that no text may hold. -/
  | character (c : Char)
  /-- A tab where the margin is. -/
  | tab
  /-- A character that starts nothing. -/
  | unexpected
  /-- A line that begins with a name for an entry, and no colon follows. -/
  | missingColon
  /-- An entry or item where none can stand. -/
  | misplaced
  /-- A marker between documents inside of a quoted text. -/
  | markerInQuotes
  /-- A quoted text without its end. -/
  | unterminated
  /-- An escape that is not known, or that is no character. -/
  | escape
  /-- A name of an anchor that is none. -/
  | anchor
  /-- A tag that is none. -/
  | tag
  /-- A directive that is none. -/
  | directive
  /-- The first line of a block of text is none. -/
  | header
  /-- Something that cannot stand where it does. -/
  | grammar
  /-- An alias without an anchor. -/
  | unknownAlias (name : String)
  /-- Too many repetitions by aliases. -/
  | repetition
  /-- Nesting too deep. -/
  | nesting
  /-- A value that is not what its tag says, or that no value can be. -/
  | value
  /-- More than one document. -/
  | severalDocuments

/-! ### Characters -/

/-- The characters that a text may hold. -/
def isPrintable (c : Char) : Bool :=
  let n := c.toNat
  n == 0x9 || n == 0xA || n == 0xD || (0x20 ≤ n && n ≤ 0x7E) || n == 0x85
    || (0xA0 ≤ n && n ≤ 0xD7FF) || (0xE000 ≤ n && n ≤ 0xFFFD) || 0x10000 ≤ n

/-- A space or tab. -/
def isBlank (c : Char) : Bool := c == ' ' || c == '\t'

/-- A line break, after line breaks have been made equal. -/
def isBreak (c : Char) : Bool := c == '\n' || c == '\u2028' || c == '\u2029'

/-- The end of the text, or white space. -/
def isBlankOrEnd : List Char → Bool
  | [] => true
  | c :: _ => isBlank c || isBreak c

/-- The end of the text, or of a line. -/
def isBreakOrEnd : List Char → Bool
  | [] => true
  | c :: _ => isBreak c

/-- A letter or digit of ASCII, the low line or the hyphen. -/
def isWordChar (c : Char) : Bool := c.isAlphanum || c == '_' || c == '-'

/-- The text with every line break a line feed, except for the two separators of Unicode. -/
def sameBreaks : List Char → List Char
  | '\r' :: '\n' :: cs => '\n' :: sameBreaks cs
  | '\r' :: cs => '\n' :: sameBreaks cs
  | '\u0085' :: cs => '\n' :: sameBreaks cs
  | c :: cs => c :: sameBreaks cs
  | [] => []

/-- A marker between documents: three hyphens or three points, then white space. -/
def atMarker : List Char → Bool
  | '-' :: '-' :: '-' :: cs => isBlankOrEnd cs
  | '.' :: '.' :: '.' :: cs => isBlankOrEnd cs
  | _ => false

/-! ### Places -/

/-- A place in a text: line, column and count of characters before it. -/
structure Mark where
  /-- Lines before it. -/
  line : Nat
  /-- Characters before it in its line. -/
  column : Nat
  /-- Characters before it. -/
  offset : Nat

/-- The start of a text. -/
def Mark.start : Mark := ⟨0, 0, 0⟩

/-- The place after a character. -/
def Mark.after (m : Mark) (c : Char) : Mark :=
  if isBreak c then ⟨m.line + 1, 0, m.offset + 1⟩ else ⟨m.line, m.column + 1, m.offset + 1⟩

/-- The place after characters that break no line. -/
def Mark.advance (m : Mark) (n : Nat) : Mark := ⟨m.line, m.column + n, m.offset + n⟩

/-- A place with what follows it. -/
structure Cursor where
  /-- What follows. -/
  rest : List Char
  /-- The place. -/
  mark : Mark

namespace Cursor

/-- The first character that follows. -/
def peek? (c : Cursor) : Option Char := c.rest.head?

/-- The cursor after some characters that break no line. -/
def advance (c : Cursor) (n : Nat) : Cursor := ⟨c.rest.drop n, c.mark.advance n⟩

/-- The characters from here on that are of a sort, which breaks no line, and the cursor after
them. -/
def span (c : Cursor) (p : Char → Bool) : List Char × Cursor :=
  let taken := c.rest.takeWhile p
  (taken, c.advance taken.length)

/-- The cursor after blanks. -/
def skipBlanks (c : Cursor) : Cursor := (c.span isBlank).2

/-- The cursor after a comment, if there is one. -/
def skipComment (c : Cursor) : Cursor :=
  match c.rest with
  | '#' :: _ => (c.span fun c => !isBreak c).2
  | _ => c

/-- The cursor after a line break, if there is one. -/
def skipBreak (c : Cursor) : Cursor :=
  match c.rest with
  | b :: rest => if isBreak b then ⟨rest, c.mark.after b⟩ else c
  | [] => c

end Cursor

end ConfigTree.Yaml
