import ConfigTree.Number.Layout
import ConfigTree.Yaml.Read

/-!
# Writing YAML

Collections are written as blocks, the items of a list at the margin of the mapping
around it.  A string is written plainly if it then reads back as itself, else in
quotes; one with line breaks becomes a block of text.

## Main definitions

* `Style`, `styleOf` — how a string is written.
* `write` — the text of a value, as a whole document.
-/

namespace ConfigTree.Yaml

/-! ### Characters of a string -/

/-- A line break of any sort. -/
def isAnyBreak (c : Char) : Bool := isBreak c || c == '\r' || c == '\u0085'

/-- Whether white space or nothing follows. -/
def beforeSpace : List Char → Bool
  | [] => true
  | c :: _ => isBlank c || isAnyBreak c || c == '\x00'

/-- The characters that are written as they are: control characters are not, nor are those beyond
the first 65536. -/
def isShown (c : Char) : Bool :=
  let n := c.toNat
  n == 0xA || (0x20 ≤ n && n ≤ 0x7E)
    || (0xA0 ≤ n && n ≤ 0xFFFD && n != 0xFEFF)

/-- Whether two neighbours of the given sorts occur. -/
def hasPair (p q : Char → Bool) : List Char → Bool
  | a :: b :: rest => (p a && q b) || hasPair p q (b :: rest)
  | _ => false

/-- Whether a colon before white space occurs, or a number sign after some. -/
def hasInnerIndicator : List Char → Bool
  | a :: b :: rest =>
    (b == ':' && beforeSpace rest) || (b == '#' && beforeSpace [a]) || hasInnerIndicator (b :: rest)
  | _ => false

/-- Whether the first character would not start a plain text. -/
def hasFirstIndicator (cs : List Char) : Bool :=
  match cs with
  | [] => false
  | c :: rest =>
    [ '#', ',', '[', ']', '\x7b', '\x7d', '&', '*', '!', '|', '>', '\'', '"', '%', '@',
      '\x60' ].contains c
    || ((c == '?' || c == ':' || c == '-') && beforeSpace rest)
    || cs.take 3 == ['-', '-', '-'] || cs.take 3 == ['.', '.', '.']

/-- Whether white space stands at the start or end. -/
def hasOuterSpace (cs : List Char) : Bool :=
  let p (c : Char) := c == ' ' || isAnyBreak c
  cs.head?.any p || cs.getLast?.any p

/-- Whether a string holds what only escapes can write. -/
def needsEscapes (cs : List Char) : Bool :=
  cs.any (fun c => !isShown c) || hasPair (· == ' ') isAnyBreak cs

/-! ### Styles -/

/-- How a string is written. -/
inductive Style
  /-- As it is. -/
  | plain
  /-- In single quotes. -/
  | single
  /-- In double quotes. -/
  | double
  /-- As a block of text. -/
  | block
  deriving DecidableEq

/-- Whether a plain text would not be read as the same string. -/
def isMisread (s : String) : Bool :=
  match plainValue s with
  | .ok (.str _) => isPadded s.toList
  | _ => true

/-- How a string is written. -/
def styleOf (s : String) : Style :=
  let cs := s.toList
  if cs.contains '\n' then
    if needsEscapes cs || cs.getLast? == some ' ' then .double else .block
  else if needsEscapes cs || hasPair isAnyBreak (· == ' ') cs then .double
  else if isMisread s || hasOuterSpace cs || cs.any isAnyBreak || hasFirstIndicator cs
      || hasInnerIndicator cs then .single
  else .plain

/-! ### Strings -/

/-- Blanks of a margin. -/
def margin (n : Nat) : List Char := List.replicate n ' '

/-- A number in hexadecimal digits. -/
def hexText (digits n : Nat) : List Char :=
  let cs := (Nat.toDigits 16 n).map Char.toUpper
  List.replicate (digits - cs.length) '0' ++ cs

/-- The escape of a character. -/
def escapeText (c : Char) : List Char :=
  match c with
  | '\x00' => ['0']
  | '\x07' => ['a']
  | '\x08' => ['b']
  | '\t' => ['t']
  | '\n' => ['n']
  | '\x0b' => ['v']
  | '\x0c' => ['f']
  | '\r' => ['r']
  | '\x1b' => ['e']
  | '"' => ['"']
  | '\\' => ['\\']
  | '\u0085' => ['N']
  | '\u2028' => ['L']
  | '\u2029' => ['P']
  | c =>
    if c.toNat ≤ 0xFF then 'x' :: hexText 2 c.toNat
    else if c.toNat ≤ 0xFFFF then 'u' :: hexText 4 c.toNat
    else 'U' :: hexText 8 c.toNat

/-- A string in double quotes. -/
def doubleText (cs : List Char) : List Char :=
  let inner := cs.flatMap fun c =>
    if !isShown c || isAnyBreak c || c == '"' || c == '\\' then '\\' :: escapeText c else [c]
  ['"'] ++ inner ++ ['"']

/-- The characters of a string in single quotes, lines after the first with a margin; `fresh` says
whether a line begins. -/
def singleFrom (n : Nat) (fresh : Bool) : List Char → List Char
  | [] => if fresh then margin n else []
  | c :: cs =>
    if isAnyBreak c then c :: singleFrom n true cs
    else
      let shown := if c == '\'' then ['\'', '\''] else [c]
      (if fresh then margin n else []) ++ shown ++ singleFrom n false cs

/-- A string in single quotes. -/
def singleText (n : Nat) (cs : List Char) : List Char := ['\''] ++ singleFrom n false cs ++ ['\'']

/-- The lines of a block of text, each with a margin unless it is empty. -/
def linesFrom (n : Nat) (fresh : Bool) : List Char → List Char
  | [] => []
  | c :: cs =>
    if isAnyBreak c then c :: linesFrom n true cs
    else (if fresh then margin n else []) ++ c :: linesFrom n false cs

/-- The sign for the line breaks at the end of a block: all are kept if there are several, or
nothing else. -/
def chompSign (cs : List Char) : List Char :=
  match cs.reverse with
  | [] => ['-']
  | [c] => if isAnyBreak c then ['+'] else ['-']
  | c :: d :: _ => if isAnyBreak c then (if isAnyBreak d then ['+'] else []) else ['-']

/-- A block of text; the width of the margin is given if white space comes first. -/
def blockText (n : Nat) (cs : List Char) : List Char :=
  let width := if cs.head?.any fun c => c == ' ' || isAnyBreak c then ['2'] else []
  ['|'] ++ width ++ chompSign cs ++ ['\n'] ++ linesFrom n true cs

/-- A string whose further lines have a margin. -/
def stringText (n : Nat) (s : String) : String :=
  match styleOf s with
  | .plain => s
  | .single => String.ofList (singleText n s.toList)
  | .double => String.ofList (doubleText s.toList)
  | .block => String.ofList (blockText n s.toList)

/-! ### Nodes -/

/-- Floats have an exponent below `10 ^ -5` and from `10 ^ 16` on, and show that they are no
whole numbers. -/
def numberText : Number.Layout where
  tie := .even
  positional k := -5 ≤ k && k ≤ 15
  wholeEnd := ".0"
  exponentMark := "e"
  nan := ".nan"
  infinity := ".inf"

/-- The start of a new line after a text, which may have ended its line already. -/
def nextLine (s : String) (n : Nat) : String :=
  let ended := s.toList.getLast?.any isBreak
  String.ofList ((if ended then [] else ['\n']) ++ margin n)

/-- Texts one below the other. -/
def stacked (n : Nat) : List String → String
  | [] => ""
  | [s] => s
  | s :: rest => s ++ nextLine s n ++ stacked n rest

/-- Whether a key can stand before its colon on one line. -/
def isShortKey (key : String) : Bool := key.utf8ByteSize ≤ 128 && !(key.toList.any isAnyBreak)

/-- A key at a margin with its colon.  One that is long or has line breaks stands behind a question
mark and the colon on a line of its own. -/
def keyPart (n : Nat) (key : String) : String :=
  if isShortKey key then stringText (n + 2) key ++ ":"
  else
    let shown := "? " ++ stringText (n + 2) key
    shown ++ nextLine shown n ++ ":"

mutual

/-- A node after a sign at a margin.  Behind a short key a collection begins on a new line, a list
at the same margin; behind any other sign it begins on the same line. -/
def nodeAfter (n : Nat) (short : Bool) (v : Value) : String :=
  match v with
  | .null => " null"
  | .bool b => if b then " true" else " false"
  | .int i => " " ++ toString i.toInt
  | .float x => " " ++ numberText.write x
  | .str s => " " ++ stringText (n + 2) s
  | .list items =>
    if items.isEmpty then " []"
    else if short then nextLine "" n ++ stacked n (itemTexts n items)
    else " " ++ stacked (n + 2) (itemTexts (n + 2) items)
  | .map entries =>
    if entries.isEmpty then " \x7b\x7d"
    else if short then nextLine "" (n + 2) ++ stacked (n + 2) (entryTexts (n + 2) entries)
    else " " ++ stacked (n + 2) (entryTexts (n + 2) entries)
termination_by structural v

/-- The items of a list at a margin. -/
def itemTexts (n : Nat) (items : List Value) : List String :=
  match items with
  | [] => []
  | v :: rest => ("-" ++ nodeAfter n false v) :: itemTexts n rest
termination_by structural items

/-- The entries of a mapping at a margin. -/
def entryTexts (n : Nat) (entries : List (String × Value)) : List String :=
  match entries with
  | [] => []
  | (key, v) :: rest =>
    (keyPart n key ++ nodeAfter n (isShortKey key) v) :: entryTexts n rest
termination_by structural entries

end

/-- A node that nothing comes before. -/
def rootText (v : Value) : String :=
  match v with
  | .null => "null"
  | .bool b => if b then "true" else "false"
  | .int i => toString i.toInt
  | .float x => numberText.write x
  | .str s => stringText 2 s
  | .list items => if items.isEmpty then "[]" else stacked 0 (itemTexts 0 items)
  | .map entries => if entries.isEmpty then "\x7b\x7d" else stacked 0 (entryTexts 0 entries)

/-- The text of a value, as a whole document. -/
def write (v : Value) : String :=
  let s := rootText v
  s ++ nextLine s 0

end ConfigTree.Yaml
