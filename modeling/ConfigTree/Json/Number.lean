import ConfigTree.Number.Layout
import ConfigTree.Number.Word
import ConfigTree.Value

/-!
# Numbers of JSON

A number without point and exponent is whole if it fits; any other is a float.  Its
digits are collected in a word of 64 bits, those that do not fit are counted or
dropped, and the float of the word is multiplied or divided by a power of ten.  The
last bit can differ from the nearest float, since both steps round.

## Main definitions

* `scanNumber` — a number at the start of a text.
* `numberText` — how floats are written.
-/

namespace ConfigTree.Json

/-- What is wrong with a text. -/
inductive Fault
  /-- The text ends too early. -/
  | ended
  /-- A character that cannot stand where it does. -/
  | unexpected
  /-- A number that is none. -/
  | number
  /-- A number too large for a float. -/
  | range
  /-- A character that no string may hold, or an escape that is none. -/
  | string
  /-- Nesting too deep. -/
  | nesting

/-- Whether a digit still fits in a word behind `n`. -/
def fits (n d : Nat) : Bool := n * 10 + d ≤ 18446744073709551615

/-- The worth of a digit. -/
def digit (c : Char) : Nat := c.toNat - 48

/-- The digits that fit in a word, how many they are, and what follows. -/
def collect (n count : Nat) : List Char → Nat × Nat × List Char
  | [] => (n, count, [])
  | c :: cs =>
    if c.isDigit && fits n (digit c) then collect (n * 10 + digit c) (count + 1) cs
    else (n, count, c :: cs)

/-- The float `10 ^ n`. -/
def tenTo (n : Nat) : Float := Number.ofDecimal false 1 n

/-- The float of a word and a power of ten.  Negative powers below all floats are applied in
steps; `fuel` bounds them. -/
def scaled : Nat → Float → Int → Except Fault Float
  | 0, x, _ => .ok x
  | fuel + 1, x, exponent =>
    if exponent.natAbs ≤ 308 then
      if 0 ≤ exponent then
        let y := x * tenTo exponent.natAbs
        if y.isInf then .error .range else .ok y
      else .ok (x / tenTo exponent.natAbs)
    else if x == 0 then .ok x
    else if 0 ≤ exponent then .error .range
    else scaled fuel (x / tenTo 308) (exponent + 308)

/-- A float with its sign. -/
def floatOf (negative : Bool) (n : Nat) (exponent : Int) : Except Fault Float := do
  let x ← scaled 8 (Number.ofRatio false n 1) exponent
  return if negative then -x else x

/-- The greatest exponent that is added up. -/
def maxExponent : Nat := 2147483647

/-- The sign and digits of an exponent, and what follows; an exponent too large is absent. -/
def scanExponent (cs : List Char) : Except Fault (Option Int × Bool × List Char) :=
  let (negative, cs) := match cs with
    | '+' :: rest => (false, rest)
    | '-' :: rest => (true, rest)
    | _ => (false, cs)
  let digits := cs.takeWhile Char.isDigit
  let rest := cs.dropWhile Char.isDigit
  match cs with
  | [] => .error .ended
  | _ =>
    if digits.isEmpty then .error .number
    else
      let n := digits.foldl (fun n c => n * 10 + digit c) 0
      if maxExponent < n then .ok (none, negative, rest)
      else .ok (some (if negative then -Int.ofNat n else n), negative, rest)

/-- A float from its exponent on, if it has one: the digits so far count as `n · 10 ^ scale`. -/
def finish (negative : Bool) (n : Nat) (scale : Int) (cs : List Char) :
    Except Fault (Float × List Char) :=
  match cs with
  | c :: rest =>
    if c == 'e' || c == 'E' then do
      let (exponent, small, rest) ← scanExponent rest
      match exponent with
      | some e => return (← floatOf negative n (scale + e), rest)
      | none =>
        if n != 0 && !small then throw .range
        else return (if negative then -0.0 else 0.0, rest)
    else do return (← floatOf negative n scale, cs)
  | [] => do return (← floatOf negative n scale, [])

/-- A float from its point on. -/
def scanFraction (negative : Bool) (n : Nat) (scale : Int) (cs : List Char) :
    Except Fault (Float × List Char) :=
  match cs with
  | [] => .error .ended
  | c :: _ =>
    if c.isDigit then
      let (n, count, rest) := collect n 0 cs
      finish negative n (scale - count) (rest.dropWhile Char.isDigit)
    else .error .number

/-- A whole number; one that fits in no word is a float, and so is a negative zero. -/
def wholeNumber (negative : Bool) (n : Nat) : Value :=
  let x := Number.ofRatio false n 1
  if negative then
    if n = 0 then .float (-0.0)
    else
      match Number.word? (-Int.ofNat n) with
      | some w => .int w
      | none => .float (-x)
  else
    match Number.word? n with
    | some w => .int w
    | none => .float x

/-- A number after its sign. -/
def scanMagnitude (negative : Bool) (cs : List Char) : Except Fault (Value × List Char) :=
  match cs with
  | [] => .error .ended
  | c :: after =>
    if !c.isDigit || (c == '0' && after.head?.any Char.isDigit) then .error .number
    else
      let (n, _, rest) := collect 0 0 cs
      let dropped := rest.takeWhile Char.isDigit
      match rest.dropWhile Char.isDigit with
      | '.' :: rest => do
        let (x, rest) ← scanFraction negative n dropped.length rest
        return (.float x, rest)
      | rest =>
        if dropped.isEmpty && !(rest.head?.any fun c => c == 'e' || c == 'E') then
          .ok (wholeNumber negative n, rest)
        else do
          let (x, rest) ← finish negative n dropped.length rest
          return (.float x, rest)

/-- A number at the start of a text, and what follows it. -/
def scanNumber (cs : List Char) : Except Fault (Value × List Char) :=
  match cs with
  | '-' :: rest => scanMagnitude true rest
  | _ => scanMagnitude false cs

/-- Floats have an exponent below `10 ^ -5` and from `10 ^ 16` on, and show that they are no
whole numbers; those that are no numbers are written like nothing. -/
def numberText : Number.Layout where
  tie := .even
  positional k := -5 ≤ k && k ≤ 15
  wholeEnd := ".0"
  exponentMark := "e+"
  nan := "null"
  infinity := "null"

end ConfigTree.Json
