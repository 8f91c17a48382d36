import ConfigTree.Number.Word

/-!
# Text in TOML

White space, comments, strings and keys.  Two kinds of quotes are used, one of which
knows escapes; a string in one quote stays on its line, a string in three does not.

## Main definitions

* `Reader` — a reader of the start of a text.
* `endLine`, `skipGaps` — what may stand between the parts of a file.
* `lineString`, `blockString` — strings in one or in three quotes.
* `keyPath` — keys with dots between them.
-/

namespace ConfigTree.Toml

/-- Reads something at the start of a text and leaves what follows it; a text that does not start
so is refused. -/
abbrev Reader (α : Type) := List Char → Option (α × List Char)

/-! ### Between the parts -/

/-- White space inside of a line. -/
def isSpace (c : Char) : Bool := c == ' ' || c == '\t'

/-- What follows white space. -/
def skipSpace (cs : List Char) : List Char := cs.dropWhile isSpace

/-- The characters of comments and strings: all but those that control, except for the tab. -/
def isShown (c : Char) : Bool := c == '\t' || (0x20 ≤ c.toNat && c.toNat != 0x7F)

/-- What follows a line break. -/
def lineBreak? : List Char → Option (List Char)
  | '\n' :: cs => some cs
  | '\r' :: '\n' :: cs => some cs
  | _ => none

/-- What follows the rest of a line that holds nothing but white space and a comment. -/
def endLine (cs : List Char) : Option (List Char) :=
  let rest := match skipSpace cs with
    | '#' :: comment => comment.dropWhile isShown
    | rest => rest
  if rest.isEmpty then some [] else lineBreak? rest

/-- What follows white space, line breaks and comments that end before the text does. -/
def skipGaps (inComment : Bool) : List Char → Option (List Char)
  | [] => if inComment then none else some []
  | '\n' :: cs => skipGaps false cs
  | '\r' :: '\n' :: cs => skipGaps false cs
  | c :: cs =>
    if inComment then (if isShown c then skipGaps true cs else none)
    else if isSpace c then skipGaps false cs
    else if c == '#' then skipGaps true cs
    else some (c :: cs)

/-! ### Strings -/

/-- The character that the given number of hexadecimal digits write. -/
def escapedChar? (digits : Nat) (cs : List Char) : Option Char := do
  if cs.length < digits then none
  else
    let n ← Number.digits? 16 (cs.take digits)
    if h : n.isValidChar then some (Char.ofNatAux n h) else none

/-- The character that an escape stands for, and how many characters it takes after the first
one. -/
def escape? : List Char → Option (Char × Nat)
  | 'b' :: _ => some ('\x08', 0)
  | 't' :: _ => some ('\t', 0)
  | 'n' :: _ => some ('\n', 0)
  | 'f' :: _ => some ('\x0c', 0)
  | 'r' :: _ => some ('\r', 0)
  | '"' :: _ => some ('"', 0)
  | '\\' :: _ => some ('\\', 0)
  | 'u' :: cs => (escapedChar? 4 cs).map (·, 4)
  | 'U' :: cs => (escapedChar? 8 cs).map (·, 8)
  | _ => none

/-- Double quotes know escapes. -/
def knowsEscapes (quote : Char) : Bool := quote == '"'

/-- A string in one quote from its middle on, after `passing` characters that are read already. -/
def lineFrom (quote : Char) (passing : Nat) (done : List Char) : Reader String
  | [] => none
  | c :: cs =>
    if 0 < passing then lineFrom quote (passing - 1) done cs
    else if c == quote then some (String.ofList done.reverse, cs)
    else if c == '\\' && knowsEscapes quote then
      match escape? cs with
      | some (e, n) => lineFrom quote (n + 1) (e :: done) cs
      | none => none
    else if isShown c then lineFrom quote 0 (c :: done) cs
    else none

/-- A string in one quote, which has been read. -/
def lineString (quote : Char) : Reader String := lineFrom quote 0 []

/-- How many of a character a text starts with. -/
def run (c : Char) (cs : List Char) : Nat := (cs.takeWhile (· == c)).length

/-- Whether the line ends here, apart from white space. -/
def isLineEnd (cs : List Char) : Bool := (lineBreak? (skipSpace cs)).isSome

/-- A string in three quotes from its middle on, after `passing` characters that are read already.
A backslash at the end of a line starts a gap, which takes white space and line breaks.  Up to two
quotes may stand before the three at the end. -/
def blockFrom (quote : Char) (passing : Nat) (gap : Bool) (done : List Char) : Reader String
  | [] => none
  | c :: cs =>
    let broken := c == '\n' || (c == '\r' && cs.head? == some '\n')
    if 0 < passing then blockFrom quote (passing - 1) gap done cs
    else if gap && (isSpace c || broken) then blockFrom quote 0 true done cs
    else if c == quote then
      let n := min 4 (run quote cs)
      if n < 2 then blockFrom quote 0 false (c :: done) cs
      else some (String.ofList (done.reverse ++ List.replicate (n - 2) quote), cs.drop n)
    else if c == '\\' && knowsEscapes quote then
      if isLineEnd cs then blockFrom quote 0 true done cs
      else
        match escape? cs with
        | some (e, n) => blockFrom quote (n + 1) false (e :: done) cs
        | none => none
    else if c == '\r' && broken then blockFrom quote 0 false done cs
    else if c == '\n' || isShown c then blockFrom quote 0 false (c :: done) cs
    else none

/-- A string in three quotes, which have been read; a line break behind them does not count. -/
def blockString (quote : Char) : Reader String := fun cs =>
  blockFrom quote 0 false [] ((lineBreak? cs).getD cs)

/-- A string of any kind. -/
def string : Reader String
  | '"' :: '"' :: '"' :: cs => blockString '"' cs
  | '\'' :: '\'' :: '\'' :: cs => blockString '\'' cs
  | '"' :: cs => lineString '"' cs
  | '\'' :: cs => lineString '\'' cs
  | _ => none

/-! ### Keys -/

/-- The characters of keys without quotes. -/
def isBare (c : Char) : Bool := c.isAlphanum || c == '_' || c == '-'

/-- A single key: a string on its line, or bare. -/
def key : Reader String
  | '"' :: cs => lineString '"' cs
  | '\'' :: cs => lineString '\'' cs
  | cs =>
    let bare := cs.takeWhile isBare
    if bare.isEmpty then none else some (String.ofList bare, cs.dropWhile isBare)

/-- Keys with dots between them after those `done`, the last first; the budget bounds their
number. -/
def keysFrom : Nat → List String → Reader (List String)
  | 0, _, _ => none
  | n + 1, done, cs => do
    let (k, cs) ← key (skipSpace cs)
    match skipSpace cs with
    | '.' :: cs => keysFrom n (k :: done) cs
    | cs => return ((k :: done).reverse, cs)

/-- How long paths of keys may be. -/
def maxKeys : Nat := 79

/-- One or more keys with dots between them, and white space around. -/
def keyPath : Reader (List String) := fun cs => keysFrom maxKeys [] cs

end ConfigTree.Toml
