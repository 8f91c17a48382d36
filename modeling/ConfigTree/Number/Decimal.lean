import ConfigTree.Number.Word
import ConfigTree.Number.Binary

/-!
# Reading floats

A decimal number in text, with or without a point and an exponent, as the nearest
float; and the words for infinity and for what is no number.

## Main definitions

* `Numeral` — sign, digits and place of a decimal number; `numeral?` reads one.
* `readFloat?` — the float that a text denotes.
-/

namespace ConfigTree.Number

/-- The decimal number `digits · 10 ^ scale`. -/
structure Numeral where
  /-- The digits, the point left out. -/
  digits : Nat
  /-- The power of ten by which they count. -/
  scale : Int

/-- An exponent, whose letter has been read: a sign or none, then one or more digits. -/
def exponent? (cs : List Char) : Option Int :=
  match cs with
  | [] => none
  | _ => readInt? cs

/-- A decimal number without a sign: digits with at most one point among or around them, then
perhaps an exponent. -/
def numeral? (cs : List Char) : Option Numeral :=
  let whole := cs.takeWhile Text.isDigit
  let afterWhole := cs.dropWhile Text.isDigit
  let (fraction, rest) := match afterWhole with
    | '.' :: tail => (tail.takeWhile Text.isDigit, tail.dropWhile Text.isDigit)
    | _ => ([], afterWhole)
  match digits? 10 (whole ++ fraction) with
  | none => none
  | some n =>
    let places : Int := fraction.length
    match rest with
    | [] => some ⟨n, -places⟩
    | c :: tail =>
      if c == 'e' || c == 'E' then (exponent? tail).map fun e => ⟨n, e - places⟩ else none

/-- A magnitude: a decimal number, or infinity or no number by name in any mixture of cases. -/
def magnitude? (negative : Bool) (cs : List Char) : Option Float :=
  let word := String.ofList (cs.map Char.toLower)
  if word = "inf" ∨ word = "infinity" then some (if negative then -1.0 / 0.0 else 1.0 / 0.0)
  else if word = "nan" then some (0.0 / 0.0)
  else (numeral? cs).map fun n => ofDecimal negative n.digits n.scale

/-- The float nearest to the number that a text writes, a sign in front or none. -/
def readFloat? : List Char → Option Float
  | '-' :: cs => magnitude? true cs
  | '+' :: cs => magnitude? false cs
  | cs => magnitude? false cs

end ConfigTree.Number
