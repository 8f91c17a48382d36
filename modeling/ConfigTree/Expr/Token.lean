/-!
# Tokens

The words of an expression: literals, names, keywords and symbols.  A token knows
where in the source it stands, in bytes of UTF-8.

## Main definitions

* `Symbol`, `Keyword`, `Token.Kind`, `Token`.
* `Keyword.ofString?` — the keyword that a word is.
-/

namespace ConfigTree

/-- Operators and delimiters. -/
inductive Symbol
  | plus | minus | star | doubleStar | slash | doubleSlash | percent
  | ampersand | pipe | caret | tilde | shiftLeft | shiftRight
  | equal | notEqual | less | lessEqual | greater | greaterEqual
  | leftParen | rightParen | leftBracket | rightBracket | leftBrace | rightBrace
  | comma | colon | dot
  deriving DecidableEq

/-- Words that are no names. -/
inductive Keyword
  | and | or | not | in | is | true | false | none
  deriving DecidableEq

/-- The keyword that a word is. -/
def Keyword.ofString? : String → Option Keyword
  | "and" => some .and
  | "or" => some .or
  | "not" => some .not
  | "in" => some .in
  | "is" => some .is
  | "True" => some .true
  | "False" => some .false
  | "None" => some .none
  | _ => Option.none

/-- What a token is. -/
inductive Token.Kind
  /-- A whole number. -/
  | int (n : Int64)
  /-- A number with a point or an exponent. -/
  | float (x : Float)
  /-- A quoted text, its escapes replaced. -/
  | str (s : String)
  /-- A name. -/
  | name (n : String)
  /-- A keyword. -/
  | keyword (k : Keyword)
  /-- A symbol. -/
  | symbol (s : Symbol)
  /-- The end of the source. -/
  | stop

/-- A token and its place: the offset of its first byte and how many bytes it has. -/
structure Token where
  /-- What the token is. -/
  kind : Token.Kind
  /-- The offset of its first byte. -/
  pos : Nat
  /-- Its length in bytes. -/
  length : Nat

end ConfigTree
