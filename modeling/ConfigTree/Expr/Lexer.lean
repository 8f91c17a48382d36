import ConfigTree.Expr.Token
import ConfigTree.Number.Decimal
import ConfigTree.Text.Quoted

/-!
# Reading tokens

The source is read from left to right, the longest token at each place.  What a
token is and how many characters it takes beyond its first are decided when its
first character is met; the reader then passes over those characters, so that it
recurses on the characters of the source alone.

## Main definitions

* `LexError` — why a source has no tokens.
* `scanNumber`, `scanWord`, `scanString`, `scanSymbol` — the four sorts of token.
* `tokenize` — the tokens of a source, the end of the source last.
-/

namespace ConfigTree

/-- What is wrong with a token. -/
inductive LexFault
  /-- A number with a point or an exponent that has a digit of another script. -/
  | badFloat
  /-- A whole number that has a digit of another script. -/
  | badInteger
  /-- A whole number that does not fit in a word. -/
  | tooLarge
  /-- A letter directly after a number. -/
  | nameAfterNumber
  /-- A quoted text without its closing quote. -/
  | unterminated
  /-- A line break in a quoted text. -/
  | lineBreak
  /-- A character that starts no token. -/
  | unexpected (c : Char)

/-- A fault and the offset of the byte it is reported at. -/
structure LexError where
  /-- The offset. -/
  pos : Nat
  /-- The fault. -/
  fault : LexFault

/-- The fault in words. -/
def LexFault.text : LexFault → String
  | .badFloat => "invalid float literal: invalid float literal"
  | .badInteger => "invalid integer literal: invalid digit found in string"
  | .tooLarge => "invalid integer literal: number too large to fit in target type"
  | .nameAfterNumber => "identifier directly after number"
  | .unterminated => "unterminated string literal"
  | .lineBreak => "newline in string literal"
  | .unexpected c => "unexpected character " ++ Text.quoteChar c

/-- The message of a fault. -/
def LexError.message (e : LexError) : String := e.fault.text ++ " at offset " ++ toString e.pos

namespace Lexer

/-- The four characters that separate tokens. -/
def isSpace (c : Char) : Bool := c == ' ' || c == '\t' || c == '\r' || c == '\n'

/-- A letter of ASCII or the low line. -/
def isNameStart (c : Char) : Bool := c.isAlpha || c == '_'

/-- A letter or digit of ASCII or the low line. -/
def isNameRest (c : Char) : Bool := c.isAlphanum || c == '_'

/-- The length of a text in bytes of UTF-8. -/
def byteSize (cs : List Char) : Nat := cs.foldl (fun n c => n + c.utf8Size) 0

/-! ### Numbers -/

/-- Digits in groups, single low lines between groups; what is read is held back to front. -/
def groupsFrom (read : List Char) : List Char → List Char × List Char
  | [] => (read, [])
  | '_' :: c :: cs =>
    if Text.isDecimalDigit c then groupsFrom (c :: '_' :: read) cs else (read, '_' :: c :: cs)
  | c :: cs => if Text.isDecimalDigit c then groupsFrom (c :: read) cs else (read, c :: cs)

/-- A point with the digits after it, if there are any. -/
def fractionFrom (read : List Char) : List Char → List Char × List Char
  | '.' :: c :: cs =>
    if Text.isDecimalDigit c then groupsFrom (c :: '.' :: read) cs else ('.' :: read, c :: cs)
  | ['.'] => ('.' :: read, [])
  | cs => (read, cs)

/-- Digits without groups. -/
def digitsFrom (read : List Char) : List Char → List Char × List Char
  | [] => (read, [])
  | c :: cs => if Text.isDecimalDigit c then digitsFrom (c :: read) cs else (read, c :: cs)

/-- An exponent, which must have a digit. -/
def exponentFrom (read : List Char) : List Char → List Char × List Char
  | e :: s :: d :: cs =>
    if e == 'e' || e == 'E' then
      if Text.isDecimalDigit s then digitsFrom (s :: e :: read) (d :: cs)
      else if (s == '+' || s == '-') && Text.isDecimalDigit d then
        digitsFrom (d :: s :: e :: read) cs
      else (read, e :: s :: d :: cs)
    else (read, e :: s :: d :: cs)
  | [e, s] =>
    if (e == 'e' || e == 'E') && Text.isDecimalDigit s then (s :: e :: read, []) else (read, [e, s])
  | cs => (read, cs)

/-- The characters of the number that starts with the digit `c`, and what follows it. -/
def numberText (c : Char) (cs : List Char) : List Char × List Char :=
  let (read, rest) := groupsFrom [c] cs
  let (read, rest) := fractionFrom read rest
  let (read, rest) := exponentFrom read rest
  (read.reverse, rest)

/-- The whole number that digits write, or the first thing wrong with them. -/
def wordFrom (n : Nat) : List Char → Except LexFault Int64
  | [] => .ok (Int64.ofNat n)
  | c :: cs =>
    if Text.isDigit c then
      let n := n * 10 + (c.toNat - '0'.toNat)
      if n ≤ Number.greatest.toNat then wordFrom n cs else .error .tooLarge
    else .error .badInteger

/-- The number that starts with the digit `c` at `pos`, and how many more characters it has.
A letter must not follow. -/
def scanNumber (pos : Nat) (c : Char) (cs : List Char) :
    Except LexError (Token.Kind × Nat) := do
  let (written, rest) := numberText c cs
  let clean := written.filter (· != '_')
  let kind ←
    if clean.any fun d => d == '.' || d == 'e' || d == 'E' then
      match Number.readFloat? clean with
      | some x => pure (Token.Kind.float x)
      | none => throw ⟨pos, .badFloat⟩
    else
      match wordFrom 0 clean with
      | .ok n => pure (Token.Kind.int n)
      | .error fault => throw ⟨pos, fault⟩
  match rest with
  | d :: _ => if isNameStart d then throw ⟨pos + byteSize written, .nameAfterNumber⟩
  | [] => pure ()
  return (kind, written.length - 1)

/-! ### Words, texts and symbols -/

/-- The word that starts with `c`, and how many more characters it has. -/
def scanWord (c : Char) (cs : List Char) : Token.Kind × Nat :=
  let rest := cs.takeWhile isNameRest
  let word := String.ofList (c :: rest)
  match Keyword.ofString? word with
  | some k => (.keyword k, rest.length)
  | none => (.name word, rest.length)

/-- What an escaped character stands for; most stand for themselves and their backslash. -/
def unescape : Char → List Char
  | 'n' => ['\n']
  | 't' => ['\t']
  | 'r' => ['\r']
  | '0' => ['\x00']
  | '\\' => ['\\']
  | '\'' => ['\'']
  | '"' => ['"']
  | c => ['\\', c]

/-- The text up to the closing `mark`, what is read held back to front, and how many
characters it takes with the mark. -/
def stringFrom (mark : Char) (read : List Char) (n : Nat) :
    List Char → Except LexFault (String × Nat)
  | [] => .error .unterminated
  | '\\' :: c :: cs => stringFrom mark ((unescape c).reverse ++ read) (n + 2) cs
  | c :: cs =>
    if c = mark then .ok (String.ofList read.reverse, n + 1)
    else if c = '\n' then .error .lineBreak
    else if c = '\\' then .error .unterminated
    else stringFrom mark (c :: read) (n + 1) cs

/-- The quoted text after its opening `mark` at `pos`. -/
def scanString (pos : Nat) (mark : Char) (cs : List Char) :
    Except LexError (Token.Kind × Nat) :=
  match stringFrom mark [] 0 cs with
  | .ok (s, n) => .ok (.str s, n)
  | .error fault => .error ⟨pos, fault⟩

/-- The symbol that starts with `c`, and how many more characters it has. -/
def symbol? (c : Char) (next : Option Char) : Option (Symbol × Nat) :=
  match c, next with
  | '*', some '*' => some (.doubleStar, 1)
  | '/', some '/' => some (.doubleSlash, 1)
  | '=', some '=' => some (.equal, 1)
  | '!', some '=' => some (.notEqual, 1)
  | '<', some '=' => some (.lessEqual, 1)
  | '>', some '=' => some (.greaterEqual, 1)
  | '<', some '<' => some (.shiftLeft, 1)
  | '>', some '>' => some (.shiftRight, 1)
  | '+', _ => some (.plus, 0)
  | '-', _ => some (.minus, 0)
  | '*', _ => some (.star, 0)
  | '/', _ => some (.slash, 0)
  | '%', _ => some (.percent, 0)
  | '&', _ => some (.ampersand, 0)
  | '|', _ => some (.pipe, 0)
  | '^', _ => some (.caret, 0)
  | '~', _ => some (.tilde, 0)
  | '<', _ => some (.less, 0)
  | '>', _ => some (.greater, 0)
  | '(', _ => some (.leftParen, 0)
  | ')', _ => some (.rightParen, 0)
  | '[', _ => some (.leftBracket, 0)
  | ']', _ => some (.rightBracket, 0)
  | '\x7b', _ => some (.leftBrace, 0)
  | '\x7d', _ => some (.rightBrace, 0)
  | ',', _ => some (.comma, 0)
  | ':', _ => some (.colon, 0)
  | '.', _ => some (.dot, 0)
  | _, _ => none

/-- The symbol that starts with `c` at `pos`. -/
def scanSymbol (pos : Nat) (c : Char) (cs : List Char) : Except LexError (Token.Kind × Nat) :=
  match symbol? c cs.head? with
  | some (s, n) => .ok (.symbol s, n)
  | none => .error ⟨pos, .unexpected c⟩

/-- The token that starts with `c` at `pos`, and how many more characters it has. -/
def scan (pos : Nat) (c : Char) (cs : List Char) : Except LexError (Token.Kind × Nat) :=
  if Text.isDigit c then scanNumber pos c cs
  else if isNameStart c then .ok (scanWord c cs)
  else if c == '\'' || c == '"' then scanString pos c cs
  else scanSymbol pos c cs

/-- Reads on at `pos`, where `passing` characters still belong to the last of the tokens
`done`, which are held back to front. -/
def tokensFrom (passing pos : Nat) (done : List Token) :
    List Char → Except LexError (List Token)
  | [] => .ok (⟨.stop, pos, 0⟩ :: done).reverse
  | c :: cs =>
    match passing with
    | n + 1 => tokensFrom n (pos + c.utf8Size) done cs
    | 0 =>
      if isSpace c then tokensFrom 0 (pos + c.utf8Size) done cs
      else
        match scan pos c cs with
        | .error e => .error e
        | .ok (kind, n) =>
          tokensFrom n (pos + c.utf8Size)
            (⟨kind, pos, c.utf8Size + byteSize (cs.take n)⟩ :: done) cs

end Lexer

/-- The tokens of a source, the last of them its end. -/
def tokenize (source : String) : Except LexError (List Token) :=
  Lexer.tokensFrom 0 0 [] source.toList

end ConfigTree
