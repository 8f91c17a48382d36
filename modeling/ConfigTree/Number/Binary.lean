/-!
# Binary floating point

A finite float is `± m · 2 ^ q` with a whole mantissa `m`.  Here it is taken apart
into these numbers and put together from an exact quotient, rounded to the nearest
float with ties to the even mantissa.  The operations that the processor does not
offer as one instruction are built on that.

## Main definitions

* `isNegative`, `mantissa`, `exponent` — a finite float taken apart.
* `ofRatio` — the float nearest to a quotient of natural numbers.
* `ofDecimal` — the float nearest to a decimal number.
* `remainder`, `truncate`, `roundEven`, `power` — operations on floats.
-/

namespace ConfigTree.Number

/-- Whether the sign bit is set; so it is for negative zero. -/
def isNegative (x : Float) : Bool := x.toBits >>> 63 == 1

/-- The eleven bits of the biased exponent. -/
def biased (x : Float) : Nat := ((x.toBits >>> 52) &&& 0x7FF).toNat

/-- The whole mantissa `m` of a finite float `± m · 2 ^ q`. -/
def mantissa (x : Float) : Nat :=
  let fraction := (x.toBits &&& 0xFFFFFFFFFFFFF).toNat
  if biased x = 0 then fraction else fraction + 4503599627370496

/-- The exponent `q` of a finite float `± m · 2 ^ q`. -/
def exponent (x : Float) : Int :=
  if biased x = 0 then -1074 else (biased x : Int) - 1075

/-- `num / den` to the nearest whole number, a half to the even one. -/
def roundHalfEven (num den : Nat) : Nat :=
  let q := num / den
  let twice := 2 * (num % den)
  if twice < den then q
  else if den < twice then q + 1
  else if q % 2 = 0 then q else q + 1

/-- `num / (den · 2 ^ q)` to the nearest whole number, a half to the even one. -/
def roundScaled (num den : Nat) (q : Int) : Nat :=
  if 0 ≤ q then roundHalfEven num (den <<< q.toNat)
  else roundHalfEven (num <<< (-q).toNat) den

/-- The exponent to which the quotient is rounded: the mantissa gets fifty-three bits,
fewer only at the bottom of the range. -/
def ratioExponent (num den : Nat) : Int :=
  let q := max ((Nat.log2 num : Int) - (Nat.log2 den : Int) - 53) (-1074)
  let floor := if 0 ≤ q then num / (den <<< q.toNat) else (num <<< (-q).toNat) / den
  if floor < 9007199254740992 then q else q + 1

/-- The bits of the float nearest to `num / den`; above the range they are infinity's. -/
def ratioBits (num den : Nat) : Nat :=
  if num = 0 then 0
  else
    let q := ratioExponent num den
    min ((q + 1074).toNat * 4503599627370496 + roundScaled num den q) 0x7FF0000000000000

/-- The float nearest to `num / den`, negated on demand. -/
def ofRatio (negative : Bool) (num den : Nat) : Float :=
  Float.ofBits (UInt64.ofNat (ratioBits num den + if negative then 0x8000000000000000 else 0))

/-- The float `± m · 2 ^ q`, rounded if it has too many bits. -/
def ofParts (negative : Bool) (m : Nat) (q : Int) : Float :=
  if 0 ≤ q then ofRatio negative (m <<< q.toNat) 1 else ofRatio negative m (1 <<< (-q).toNat)

/-- The float nearest to `± digits · 10 ^ scale`.  Numbers beyond every float in either
direction are not computed at length. -/
def ofDecimal (negative : Bool) (digits : Nat) (scale : Int) : Float :=
  if digits = 0 ∨ scale + (Nat.log2 digits / 3 : Nat) + 1 < -330 then ofRatio negative 0 1
  else if 310 < scale then ofRatio negative (Nat.pow 2 1100) 1
  else if 0 ≤ scale then ofRatio negative (digits * Nat.pow 10 scale.toNat) 1
  else ofRatio negative digits (Nat.pow 10 (-scale).toNat)

/-- The remainder of a division rounded toward zero, exactly; it has the sign of `x`. -/
def remainder (x y : Float) : Float :=
  if x.isNaN || y.isNaN || x.isInf || y == 0 then 0.0 / 0.0
  else if y.isInf then x
  else
    let q := min (exponent x) (exponent y)
    let a := mantissa x <<< (exponent x - q).toNat
    let b := mantissa y <<< (exponent y - q).toNat
    ofParts (isNegative x) (a % b) q

/-- The whole number next to `x` on the side of zero. -/
def truncate (x : Float) : Float := if x < 0 then x.ceil else x.floor

/-- Whether `x` is a whole number. -/
def isWhole (x : Float) : Bool := x - truncate x == 0

/-- The whole number nearest to `x`, a half to the even one.  Adding and taking away
`2 ^ 52` makes the processor round off the fraction. -/
def roundEven (x : Float) : Float :=
  let a := x.abs
  if a < 4503599627370496.0 then
    let r := (a + 4503599627370496.0) - 4503599627370496.0
    if isNegative x then -r else r
  else x

/-- `r · a ^ n` by repeated squaring. -/
def powerFrom (r a : Float) (n : Nat) : Float :=
  let r := if n % 2 = 1 then r * a else r
  if n / 2 = 0 then r else powerFrom r (a * a) (n / 2)
termination_by n

/-- `a ^ n`, a negative power as the reciprocal of the positive one. -/
def power (a : Float) (n : Int) : Float :=
  let r := powerFrom 1 a n.natAbs
  if n < 0 then 1 / r else r

end ConfigTree.Number
