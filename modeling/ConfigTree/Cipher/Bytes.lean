/-!
# Bytes

Texts and numbers as lists of bytes, and back.

## Main definitions

* `utf8`, `ofUtf8?` — the bytes of a text.
* `bigEndian`, `ofBigEndian` — the bytes of a number, the greatest first.
-/

namespace ConfigTree.Cipher

/-- A list of bytes. -/
abbrev Bytes := List UInt8

/-- The UTF-8 form of a text. -/
def utf8 (s : String) : Bytes := s.toUTF8.toList

/-- The text that bytes are the UTF-8 form of. -/
def ofUtf8? (bs : Bytes) : Option String := String.fromUTF8? (ByteArray.mk bs.toArray)

/-- The lowest `width` bytes of a number, the greatest first. -/
def bigEndian (width n : Nat) : Bytes :=
  (List.range width).reverse.map fun i => UInt8.ofNat (n >>> (8 * i))

/-- The number that bytes write, the greatest first. -/
def ofBigEndian (bs : Bytes) : Nat := bs.foldl (fun n b => n * 256 + b.toNat) 0

/-- Two lists of bytes, byte by byte in exclusive or. -/
def xor (a b : Bytes) : Bytes := List.zipWith (· ^^^ ·) a b

/-- The bytes in blocks of `size`, the last one perhaps shorter. -/
def blocksFrom (size : Nat) (done : List Bytes) : Nat → Bytes → List Bytes
  | 0, _ => done.reverse
  | n + 1, bs => if bs.isEmpty then done.reverse
    else blocksFrom size (bs.take size :: done) n (bs.drop size)

/-- The bytes in blocks of `size`, the last one perhaps shorter. -/
def blocks (size : Nat) (bs : Bytes) : List Bytes := blocksFrom size [] bs.length bs

@[simp] theorem length_bigEndian (width n : Nat) : (bigEndian width n).length = width := by
  simp [bigEndian]

end ConfigTree.Cipher
