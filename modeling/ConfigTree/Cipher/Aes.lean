import ConfigTree.Cipher.Bytes

/-!
# AES with keys of sixteen bytes

The block cipher in both directions, and messages of any length with it: blocks
are chained and the last one is filled up with bytes that count themselves.

## Main definitions

* `Aes.encryptBlock`, `Aes.decryptBlock` — one block.
* `Aes.encrypt`, `Aes.decrypt?` — a message.
-/

namespace ConfigTree.Cipher.Aes

/-- The substitution of bytes. -/
def substitution : Array UInt8 := #[
    0x63, 0x7C, 0x77, 0x7B, 0xF2, 0x6B, 0x6F, 0xC5, 0x30, 0x01, 0x67, 0x2B,
    0xFE, 0xD7, 0xAB, 0x76, 0xCA, 0x82, 0xC9, 0x7D, 0xFA, 0x59, 0x47, 0xF0,
    0xAD, 0xD4, 0xA2, 0xAF, 0x9C, 0xA4, 0x72, 0xC0, 0xB7, 0xFD, 0x93, 0x26,
    0x36, 0x3F, 0xF7, 0xCC, 0x34, 0xA5, 0xE5, 0xF1, 0x71, 0xD8, 0x31, 0x15,
    0x04, 0xC7, 0x23, 0xC3, 0x18, 0x96, 0x05, 0x9A, 0x07, 0x12, 0x80, 0xE2,
    0xEB, 0x27, 0xB2, 0x75, 0x09, 0x83, 0x2C, 0x1A, 0x1B, 0x6E, 0x5A, 0xA0,
    0x52, 0x3B, 0xD6, 0xB3, 0x29, 0xE3, 0x2F, 0x84, 0x53, 0xD1, 0x00, 0xED,
    0x20, 0xFC, 0xB1, 0x5B, 0x6A, 0xCB, 0xBE, 0x39, 0x4A, 0x4C, 0x58, 0xCF,
    0xD0, 0xEF, 0xAA, 0xFB, 0x43, 0x4D, 0x33, 0x85, 0x45, 0xF9, 0x02, 0x7F,
    0x50, 0x3C, 0x9F, 0xA8, 0x51, 0xA3, 0x40, 0x8F, 0x92, 0x9D, 0x38, 0xF5,
    0xBC, 0xB6, 0xDA, 0x21, 0x10, 0xFF, 0xF3, 0xD2, 0xCD, 0x0C, 0x13, 0xEC,
    0x5F, 0x97, 0x44, 0x17, 0xC4, 0xA7, 0x7E, 0x3D, 0x64, 0x5D, 0x19, 0x73,
    0x60, 0x81, 0x4F, 0xDC, 0x22, 0x2A, 0x90, 0x88, 0x46, 0xEE, 0xB8, 0x14,
    0xDE, 0x5E, 0x0B, 0xDB, 0xE0, 0x32, 0x3A, 0x0A, 0x49, 0x06, 0x24, 0x5C,
    0xC2, 0xD3, 0xAC, 0x62, 0x91, 0x95, 0xE4, 0x79, 0xE7, 0xC8, 0x37, 0x6D,
    0x8D, 0xD5, 0x4E, 0xA9, 0x6C, 0x56, 0xF4, 0xEA, 0x65, 0x7A, 0xAE, 0x08,
    0xBA, 0x78, 0x25, 0x2E, 0x1C, 0xA6, 0xB4, 0xC6, 0xE8, 0xDD, 0x74, 0x1F,
    0x4B, 0xBD, 0x8B, 0x8A, 0x70, 0x3E, 0xB5, 0x66, 0x48, 0x03, 0xF6, 0x0E,
    0x61, 0x35, 0x57, 0xB9, 0x86, 0xC1, 0x1D, 0x9E, 0xE1, 0xF8, 0x98, 0x11,
    0x69, 0xD9, 0x8E, 0x94, 0x9B, 0x1E, 0x87, 0xE9, 0xCE, 0x55, 0x28, 0xDF,
    0x8C, 0xA1, 0x89, 0x0D, 0xBF, 0xE6, 0x42, 0x68, 0x41, 0x99, 0x2D, 0x0F,
    0xB0, 0x54, 0xBB, 0x16]

/-- The substitution undone. -/
def unsubstitution : Array UInt8 := #[
    0x52, 0x09, 0x6A, 0xD5, 0x30, 0x36, 0xA5, 0x38, 0xBF, 0x40, 0xA3, 0x9E,
    0x81, 0xF3, 0xD7, 0xFB, 0x7C, 0xE3, 0x39, 0x82, 0x9B, 0x2F, 0xFF, 0x87,
    0x34, 0x8E, 0x43, 0x44, 0xC4, 0xDE, 0xE9, 0xCB, 0x54, 0x7B, 0x94, 0x32,
    0xA6, 0xC2, 0x23, 0x3D, 0xEE, 0x4C, 0x95, 0x0B, 0x42, 0xFA, 0xC3, 0x4E,
    0x08, 0x2E, 0xA1, 0x66, 0x28, 0xD9, 0x24, 0xB2, 0x76, 0x5B, 0xA2, 0x49,
    0x6D, 0x8B, 0xD1, 0x25, 0x72, 0xF8, 0xF6, 0x64, 0x86, 0x68, 0x98, 0x16,
    0xD4, 0xA4, 0x5C, 0xCC, 0x5D, 0x65, 0xB6, 0x92, 0x6C, 0x70, 0x48, 0x50,
    0xFD, 0xED, 0xB9, 0xDA, 0x5E, 0x15, 0x46, 0x57, 0xA7, 0x8D, 0x9D, 0x84,
    0x90, 0xD8, 0xAB, 0x00, 0x8C, 0xBC, 0xD3, 0x0A, 0xF7, 0xE4, 0x58, 0x05,
    0xB8, 0xB3, 0x45, 0x06, 0xD0, 0x2C, 0x1E, 0x8F, 0xCA, 0x3F, 0x0F, 0x02,
    0xC1, 0xAF, 0xBD, 0x03, 0x01, 0x13, 0x8A, 0x6B, 0x3A, 0x91, 0x11, 0x41,
    0x4F, 0x67, 0xDC, 0xEA, 0x97, 0xF2, 0xCF, 0xCE, 0xF0, 0xB4, 0xE6, 0x73,
    0x96, 0xAC, 0x74, 0x22, 0xE7, 0xAD, 0x35, 0x85, 0xE2, 0xF9, 0x37, 0xE8,
    0x1C, 0x75, 0xDF, 0x6E, 0x47, 0xF1, 0x1A, 0x71, 0x1D, 0x29, 0xC5, 0x89,
    0x6F, 0xB7, 0x62, 0x0E, 0xAA, 0x18, 0xBE, 0x1B, 0xFC, 0x56, 0x3E, 0x4B,
    0xC6, 0xD2, 0x79, 0x20, 0x9A, 0xDB, 0xC0, 0xFE, 0x78, 0xCD, 0x5A, 0xF4,
    0x1F, 0xDD, 0xA8, 0x33, 0x88, 0x07, 0xC7, 0x31, 0xB1, 0x12, 0x10, 0x59,
    0x27, 0x80, 0xEC, 0x5F, 0x60, 0x51, 0x7F, 0xA9, 0x19, 0xB5, 0x4A, 0x0D,
    0x2D, 0xE5, 0x7A, 0x9F, 0x93, 0xC9, 0x9C, 0xEF, 0xA0, 0xE0, 0x3B, 0x4D,
    0xAE, 0x2A, 0xF5, 0xB0, 0xC8, 0xEB, 0xBB, 0x3C, 0x83, 0x53, 0x99, 0x61,
    0x17, 0x2B, 0x04, 0x7E, 0xBA, 0x77, 0xD6, 0x26, 0xE1, 0x69, 0x14, 0x63,
    0x55, 0x21, 0x0C, 0x7D]

/-- The byte substituted for `b`. -/
def substitute (b : UInt8) : UInt8 := substitution.getD b.toNat 0

/-- The byte that `b` was substituted for. -/
def unsubstitute (b : UInt8) : UInt8 := unsubstitution.getD b.toNat 0

/-- A byte doubled in the field of 256 elements. -/
def double (b : UInt8) : UInt8 := (b <<< 1) ^^^ (if b &&& 0x80 = 0 then 0 else 0x1B)

/-- The product of a byte with a factor below sixteen. -/
def times (factor b : UInt8) : UInt8 :=
  let b2 := double b
  let b4 := double b2
  let b8 := double b4
  (if factor &&& 1 = 0 then 0 else b) ^^^ (if factor &&& 2 = 0 then 0 else b2)
    ^^^ (if factor &&& 4 = 0 then 0 else b4) ^^^ (if factor &&& 8 = 0 then 0 else b8)

/-- One column of four bytes times the circulant matrix of four factors. -/
def mixColumn (f0 f1 f2 f3 : UInt8) (column : Bytes) : Bytes :=
  match column with
  | [a, b, c, d] =>
    [times f0 a ^^^ times f1 b ^^^ times f2 c ^^^ times f3 d,
     times f3 a ^^^ times f0 b ^^^ times f1 c ^^^ times f2 d,
     times f2 a ^^^ times f3 b ^^^ times f0 c ^^^ times f1 d,
     times f1 a ^^^ times f2 b ^^^ times f3 c ^^^ times f0 d]
  | _ => column

/-- Every column of a block mixed. -/
def mix (block : Bytes) : Bytes := (blocks 4 block).flatMap (mixColumn 2 3 1 1)

/-- Every column of a block unmixed. -/
def unmix (block : Bytes) : Bytes := (blocks 4 block).flatMap (mixColumn 14 11 13 9)

/-- The bytes of a block at the given positions. -/
def pick (positions : List Nat) (block : Bytes) : Bytes := positions.map fun i => block.getD i 0

/-- Row `r` of a block turned to the left by `r`; columns stand one after another. -/
def shiftRows : Bytes → Bytes := pick [0, 5, 10, 15, 4, 9, 14, 3, 8, 13, 2, 7, 12, 1, 6, 11]

/-- The rows turned back. -/
def unshiftRows : Bytes → Bytes := pick [0, 13, 10, 7, 4, 1, 14, 11, 8, 5, 2, 15, 12, 9, 6, 3]

/-- The round key after `key`, with the constant of its round. -/
def nextKey (constant : UInt8) (key : Bytes) : Bytes :=
  match blocks 4 key with
  | [w0, w1, w2, [a, b, c, d]] =>
    let turned := [substitute b ^^^ constant, substitute c, substitute d, substitute a]
    let w0 := xor w0 turned
    let w1 := xor w1 w0
    let w2 := xor w2 w1
    w0 ++ w1 ++ w2 ++ xor [a, b, c, d] w2
  | _ => key

/-- The keys of the rounds after the one with `key`, for the constants of these rounds. -/
def keysFrom (key : Bytes) : List UInt8 → List Bytes
  | [] => []
  | constant :: rest =>
    let next := nextKey constant key
    next :: keysFrom next rest

/-- The ten keys of the rounds. -/
def roundKeys (key : Bytes) : List Bytes :=
  keysFrom key [0x01, 0x02, 0x04, 0x08, 0x10, 0x20, 0x40, 0x80, 0x1B, 0x36]

/-- The rounds with the given keys; the last one does not mix. -/
def rounds (block : Bytes) : List Bytes → Bytes
  | [] => block
  | [key] => xor (shiftRows (block.map substitute)) key
  | key :: rest => rounds (xor (mix (shiftRows (block.map substitute))) key) rest

/-- One block of sixteen bytes encrypted. -/
def encryptBlock (key block : Bytes) : Bytes := rounds (xor block key) (roundKeys key)

/-- The rounds undone, the last first; the first key undoes the last round. -/
def unrounds (block : Bytes) : List Bytes → Bytes
  | [] => block
  | key :: rest => unrounds (unmix (xor ((unshiftRows block).map unsubstitute) key)) rest

/-- One block of sixteen bytes decrypted. -/
def decryptBlock (key block : Bytes) : Bytes :=
  match (roundKeys key).reverse with
  | last :: rest => xor ((unshiftRows (unrounds (xor block last) rest)).map unsubstitute) key
  | [] => block

/-- The blocks of a message chained: each is mixed with the encrypted one before it.  What is
`done` is held back to front. -/
def chain (key before : Bytes) (done : List Bytes) : List Bytes → Bytes
  | [] => done.reverse.flatten
  | block :: rest =>
    let next := encryptBlock key (xor block before)
    chain key next (next :: done) rest

/-- The chain undone. -/
def unchain (key before : Bytes) (done : List Bytes) : List Bytes → Bytes
  | [] => done.reverse.flatten
  | block :: rest => unchain key block (xor (decryptBlock key block) before :: done) rest

/-- The message filled up to whole blocks with one to sixteen bytes, each their number. -/
def fill (message : Bytes) : Bytes :=
  let n := 16 - message.length % 16
  message ++ List.replicate n (UInt8.ofNat n)

/-- The filling taken away, if there is one. -/
def unfill? (filled : Bytes) : Option Bytes :=
  match filled.getLast? with
  | none => none
  | some b =>
    let n := b.toNat
    let kept := filled.length - n
    if 0 < n ∧ n ≤ 16 ∧ n ≤ filled.length ∧ (filled.drop kept).all (· == b) then
      some (filled.take kept)
    else none

/-- A message encrypted, chained from an initial block. -/
def encrypt (key initial message : Bytes) : Bytes := chain key initial [] (blocks 16 (fill message))

/-- A message decrypted; only whole blocks with a filling are a message. -/
def decrypt? (key initial encrypted : Bytes) : Option Bytes :=
  if encrypted.length % 16 = 0 then unfill? (unchain key initial [] (blocks 16 encrypted)) else none

end ConfigTree.Cipher.Aes
