import ConfigTree.Number.Decimal
import ConfigTree.Toml.Text
import ConfigTree.Value

/-!
# Numbers in TOML

Digits may be grouped by single underscores.  Whole numbers come in four bases, three
of them without a sign.  A number too large for a float is refused unless it is
negative.

## Main definitions

* `grouped` — digits in groups.
* `number` — a number of any kind.
-/

namespace ConfigTree.Toml

/-- The rest of grouped digits after those `done`, the last first; an underscore stands between two
digits. -/
def groupedFrom (isOne : Char → Bool) (done : List Char) : Reader (List Char)
  | [] => some (done.reverse, [])
  | ['_'] => none
  | '_' :: c :: cs => if isOne c then groupedFrom isOne (c :: done) cs else none
  | c :: cs => if isOne c then groupedFrom isOne (c :: done) cs else some (done.reverse, c :: cs)

/-- One or more digits in groups. -/
def grouped (isOne : Char → Bool) : Reader (List Char)
  | [] => none
  | c :: cs => if isOne c then groupedFrom isOne [c] cs else none

/-- The digits before the point: a zero stands alone. -/
def wholeDigits : Reader (List Char)
  | '0' :: cs => some (['0'], cs)
  | cs => grouped Text.isDigit cs

/-- A fraction, if there is one. -/
def fraction : Reader (List Char)
  | '.' :: cs => do
    let (digits, cs) ← grouped Text.isDigit cs
    return ('.' :: digits, cs)
  | cs => some ([], cs)

/-- The sign at the start of a text, and what follows it. -/
def sign : List Char → List Char × List Char
  | '+' :: cs => (['+'], cs)
  | '-' :: cs => (['-'], cs)
  | cs => ([], cs)

/-- An exponent, if there is one. -/
def exponent (cs : List Char) : Option (List Char × List Char) :=
  match cs with
  | c :: rest =>
    if c == 'e' || c == 'E' then do
      let (s, rest) := sign rest
      let (digits, rest) ← grouped Text.isDigit rest
      return ('e' :: (s ++ digits), rest)
    else some ([], cs)
  | [] => some ([], cs)

/-- The value of a number in the base: a word if it fits. -/
def wordIn (base : Nat) (digits : List Char) : Option Value := do
  let n ← Number.digits? base digits
  let w ← Number.word? n
  return .int w

/-- Whether a character is a digit in a base. -/
def isDigitIn (base : Nat) (c : Char) : Bool := (Text.digitValue? c).any (· < base)

/-- A whole number in a base, whose mark has been read. -/
def based (base : Nat) : Reader Value := fun cs => do
  let (digits, cs) ← grouped (isDigitIn base) cs
  return (← wordIn base digits, cs)

/-- A decimal number: a float if it has a fraction or an exponent. -/
def decimal : Reader Value := fun cs => do
  let (s, cs) := sign cs
  let (whole, cs) ← wholeDigits cs
  let (fraction, cs) ← fraction cs
  let (exponent, cs) ← exponent cs
  let text := s ++ whole ++ fraction ++ exponent
  if fraction.isEmpty && exponent.isEmpty then
    let n ← Number.readInt? text
    return (.int (← Number.word? n), cs)
  else
    let x ← Number.readFloat? text
    if x == 1.0 / 0.0 then none else return (.float x, cs)

/-- A number of any kind. -/
def number : Reader Value := fun cs =>
  match sign cs with
  | (s, 'i' :: 'n' :: 'f' :: rest) =>
    some (.float (if s == ['-'] then -1.0 / 0.0 else 1.0 / 0.0), rest)
  | (_, 'n' :: 'a' :: 'n' :: rest) => some (.float (0.0 / 0.0), rest)
  | _ =>
    match cs with
    | '0' :: 'x' :: rest => based 16 rest
    | '0' :: 'o' :: rest => based 8 rest
    | '0' :: 'b' :: rest => based 2 rest
    | _ => decimal cs

end ConfigTree.Toml
