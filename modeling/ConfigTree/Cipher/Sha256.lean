import ConfigTree.Cipher.Bytes

/-!
# SHA-256 and its keyed form

The hash function on bytes, and the message code that is made of it with a key.

## Main definitions

* `sha256` — thirty-two bytes for any bytes.
* `hmac` — thirty-two bytes for a key and a message.
-/

namespace ConfigTree.Cipher

namespace Sha256

/-- The eight words of the state. -/
structure State where
  /-- First word. -/
  a : UInt32
  /-- Second word. -/
  b : UInt32
  /-- Third word. -/
  c : UInt32
  /-- Fourth word. -/
  d : UInt32
  /-- Fifth word. -/
  e : UInt32
  /-- Sixth word. -/
  f : UInt32
  /-- Seventh word. -/
  g : UInt32
  /-- Eighth word. -/
  h : UInt32

/-- The state before the first block: fractions of the square roots of the first primes. -/
def State.initial : State where
  a := 0x6A09E667
  b := 0xBB67AE85
  c := 0x3C6EF372
  d := 0xA54FF53A
  e := 0x510E527F
  f := 0x9B05688C
  g := 0x1F83D9AB
  h := 0x5BE0CD19

/-- One word for each round: fractions of the cube roots of the first primes. -/
def roundWords : List UInt32 := [
    0x428A2F98, 0x71374491, 0xB5C0FBCF, 0xE9B5DBA5, 0x3956C25B, 0x59F111F1,
    0x923F82A4, 0xAB1C5ED5, 0xD807AA98, 0x12835B01, 0x243185BE, 0x550C7DC3,
    0x72BE5D74, 0x80DEB1FE, 0x9BDC06A7, 0xC19BF174, 0xE49B69C1, 0xEFBE4786,
    0x0FC19DC6, 0x240CA1CC, 0x2DE92C6F, 0x4A7484AA, 0x5CB0A9DC, 0x76F988DA,
    0x983E5152, 0xA831C66D, 0xB00327C8, 0xBF597FC7, 0xC6E00BF3, 0xD5A79147,
    0x06CA6351, 0x14292967, 0x27B70A85, 0x2E1B2138, 0x4D2C6DFC, 0x53380D13,
    0x650A7354, 0x766A0ABB, 0x81C2C92E, 0x92722C85, 0xA2BFE8A1, 0xA81A664B,
    0xC24B8B70, 0xC76C51A3, 0xD192E819, 0xD6990624, 0xF40E3585, 0x106AA070,
    0x19A4C116, 0x1E376C08, 0x2748774C, 0x34B0BCB5, 0x391C0CB3, 0x4ED8AA4A,
    0x5B9CCA4F, 0x682E6FF3, 0x748F82EE, 0x78A5636F, 0x84C87814, 0x8CC70208,
    0x90BEFFFA, 0xA4506CEB, 0xBEF9A3F7, 0xC67178F2]

/-- The bits of a word turned to the right. -/
def rotate (w : UInt32) (n : UInt32) : UInt32 := (w >>> n) ||| (w <<< (32 - n))

/-- The next word of the schedule from the sixteen before it, latest first. -/
def nextWord (recent : List UInt32) : UInt32 :=
  match recent with
  | [_, w2, _, _, _, _, w7, _, _, _, _, _, _, _, w15, w16] =>
    let s0 := rotate w15 7 ^^^ rotate w15 18 ^^^ (w15 >>> 3)
    let s1 := rotate w2 17 ^^^ rotate w2 19 ^^^ (w2 >>> 10)
    w16 + s0 + w7 + s1
  | _ => 0

/-- The rest of the schedule, `n` words, each appended to those `done`, latest first. -/
def scheduleFrom (done : List UInt32) : Nat → List UInt32
  | 0 => done.reverse
  | n + 1 => scheduleFrom (nextWord (done.take 16) :: done) n

/-- The sixty-four words of a block. -/
def schedule (block : Bytes) : List UInt32 :=
  scheduleFrom ((blocks 4 block).map fun bs => UInt32.ofNat (ofBigEndian bs)).reverse 48

/-- One round with its constant and its word of the schedule. -/
def round (s : State) (kw : UInt32 × UInt32) : State :=
  let s1 := rotate s.e 6 ^^^ rotate s.e 11 ^^^ rotate s.e 25
  let choice := (s.e &&& s.f) ^^^ (~~~s.e &&& s.g)
  let t1 := s.h + s1 + choice + kw.1 + kw.2
  let s0 := rotate s.a 2 ^^^ rotate s.a 13 ^^^ rotate s.a 22
  let majority := (s.a &&& s.b) ^^^ (s.a &&& s.c) ^^^ (s.b &&& s.c)
  ⟨t1 + (s0 + majority), s.a, s.b, s.c, s.d + t1, s.e, s.f, s.g⟩

/-- The state after a block. -/
def absorb (s : State) (block : Bytes) : State :=
  let t := (roundWords.zip (schedule block)).foldl round s
  ⟨s.a + t.a, s.b + t.b, s.c + t.c, s.d + t.d, s.e + t.e, s.f + t.f, s.g + t.g, s.h + t.h⟩

/-- The message with a one bit, zeros and its length in bits, in whole blocks. -/
def pad (message : Bytes) : Bytes :=
  let zeros := (119 - message.length % 64) % 64
  message ++ 0x80 :: List.replicate zeros 0 ++ bigEndian 8 (8 * message.length)

/-- The state as bytes. -/
def State.bytes (s : State) : Bytes :=
  [s.a, s.b, s.c, s.d, s.e, s.f, s.g, s.h].flatMap fun w => bigEndian 4 w.toNat

end Sha256

/-- The hash of a message. -/
def sha256 (message : Bytes) : Bytes :=
  ((blocks 64 (Sha256.pad message)).foldl Sha256.absorb .initial).bytes

/-- The code of a message under a key. -/
def hmac (key message : Bytes) : Bytes :=
  let short := if 64 < key.length then sha256 key else key
  let block := short ++ List.replicate (64 - short.length) 0
  sha256 (block.map (· ^^^ 0x5C) ++ sha256 (block.map (· ^^^ 0x36) ++ message))

end ConfigTree.Cipher
