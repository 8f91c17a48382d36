import ConfigTree.Cipher.Bytes

/-!
# Base 64 for addresses

Bytes as text of letters, digits, the hyphen and the low line, four characters for
three bytes, filled up with equal signs.  Reading does without the equal signs,
and refuses a last character that carries bits of no byte.

## Main definitions

* `encode64`, `decode64?`.
-/

namespace ConfigTree.Cipher

/-- The character for six bits. -/
def letter64 (n : Nat) : Char :=
  if n < 26 then Char.ofNat ('A'.toNat + n)
  else if n < 52 then Char.ofNat ('a'.toNat + (n - 26))
  else if n < 62 then Char.ofNat ('0'.toNat + (n - 52))
  else if n = 62 then '-' else '_'

/-- The six bits of a character. -/
def bits64? (c : Char) : Option Nat :=
  if 'A' ≤ c ∧ c ≤ 'Z' then some (c.toNat - 'A'.toNat)
  else if 'a' ≤ c ∧ c ≤ 'z' then some (c.toNat - 'a'.toNat + 26)
  else if '0' ≤ c ∧ c ≤ '9' then some (c.toNat - '0'.toNat + 52)
  else if c = '-' then some 62
  else if c = '_' then some 63
  else none

/-- The text of the rest of the bytes, after what is `written`, held back to front. -/
def encode64From (written : List Char) : Bytes → List Char
  | [] => written.reverse
  | [a] =>
    let n := a.toNat
    (['=', '=', letter64 (n % 4 * 16), letter64 (n / 4)] ++ written).reverse
  | [a, b] =>
    let n := a.toNat * 256 + b.toNat
    (['=', letter64 (n % 16 * 4), letter64 (n / 16 % 64), letter64 (n / 1024)] ++ written).reverse
  | a :: b :: c :: rest =>
    let n := (a.toNat * 256 + b.toNat) * 256 + c.toNat
    encode64From
      (letter64 (n % 64) :: letter64 (n / 64 % 64) :: letter64 (n / 4096 % 64)
        :: letter64 (n / 262144) :: written) rest

/-- Bytes as text. -/
def encode64 (bs : Bytes) : String := String.ofList (encode64From [] bs)

/-- The bytes of the rest of the six-bit groups, after those `done` held back to front. -/
def decode64From? (done : Bytes) : List Nat → Option Bytes
  | [] => some done.reverse
  | [_] => none
  | [a, b] => if b % 16 = 0 then some (UInt8.ofNat (a * 4 + b / 16) :: done).reverse else none
  | [a, b, c] =>
    if c % 4 = 0 then
      some (UInt8.ofNat (b * 16 + c / 4) :: UInt8.ofNat (a * 4 + b / 16) :: done).reverse
    else none
  | a :: b :: c :: d :: rest =>
    decode64From?
      (UInt8.ofNat (c * 64 + d) :: UInt8.ofNat (b * 16 + c / 4) :: UInt8.ofNat (a * 4 + b / 16)
        :: done) rest

/-- The bytes that a text writes; equal signs at its end do not count. -/
def decode64? (s : String) : Option Bytes := do
  let cs := (s.toList.reverse.dropWhile (· == '=')).reverse
  decode64From? [] (← cs.mapM bits64?)

end ConfigTree.Cipher
