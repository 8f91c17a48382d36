import ConfigTree.Number.Shortest

/-!
# Floats as text

The shortest decimal of a float laid out by a format: which places are written
positionally, how a whole number ends, how the exponent is written and what the
values are called that are no numbers.

## Main definitions

* `Layout` — the decisions of one format; `Layout.write` — the text.
* `plain`, `readable` — the formats of messages and of values in text.
-/

namespace ConfigTree.Number

/-- How a format writes its floats. -/
structure Layout where
  /-- What becomes of a tie between two shortest decimals. -/
  tie : Tie
  /-- Whether a number whose leading digit stands for `10 ^ k` is written without an exponent. -/
  positional : Int → Bool
  /-- What follows a whole number, positional or not. -/
  wholeEnd : String
  /-- What stands between the digits and a positive exponent. -/
  exponentMark : String
  /-- The text of a value that is not a number. -/
  nan : String
  /-- The text of positive infinity. -/
  infinity : String

/-- The digits with the point after the first `point` of them; a whole number gets
`wholeEnd`, and a number below one a zero before the point. -/
def positionalText (digits : List Char) (point : Int) (wholeEnd : String) : String :=
  let n : Int := digits.length
  if n ≤ point then
    String.ofList (digits ++ List.replicate (point - n).toNat '0') ++ wholeEnd
  else if 0 < point then
    String.ofList (digits.take point.toNat ++ ['.'] ++ digits.drop point.toNat)
  else
    String.ofList (['0', '.'] ++ List.replicate (-point).toNat '0' ++ digits)

/-- The digits with the point after the first, and the exponent `k`. -/
def scientificText (digits : List Char) (k : Int) (mark : String) : String :=
  let mantissa := match digits with
    | d :: d' :: rest => d :: '.' :: d' :: rest
    | _ => digits
  String.ofList mantissa ++ (if k < 0 then "e" else mark) ++ toString k

/-- A positive, finite float without its sign. -/
def Layout.magnitude (l : Layout) (x : Float) : String :=
  if x == 0 then "0" ++ l.wholeEnd
  else
    let (d, scale) := shortest l.tie x
    let digits := Nat.toDigits 10 d
    let k := scale + digits.length - 1
    if l.positional k then positionalText digits (k + 1) l.wholeEnd
    else scientificText digits k l.exponentMark

/-- The text of a float. -/
def Layout.write (l : Layout) (x : Float) : String :=
  if x.isNaN then l.nan
  else
    let size := if x.isInf then l.infinity else l.magnitude x.abs
    if isNegative x then "-" ++ size else size

/-- Floats as messages name them: never an exponent, no point in a whole number. -/
def plain : Layout := ⟨.up, fun _ => true, "", "e", "NaN", "inf"⟩

/-- Floats as values are written in text: never an exponent, and a whole number below
`10 ^ 16` shows that it is a float. -/
def readable (x : Float) : String :=
  if x.isNaN then "nan"
  else if isWhole x && x.abs < 1e16 then { plain with wholeEnd := ".0" }.write x
  else plain.write x

end ConfigTree.Number
