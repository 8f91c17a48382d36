import ConfigTree.Cipher.Aes
import ConfigTree.Cipher.Base64
import ConfigTree.Cipher.Sha256
import ConfigTree.Eval.Error

/-!
# Sealed tokens

A text sealed with a key: a version, the time of sealing, the initial block, the
encrypted text and a code over all of these.  A token is opened only with its key,
unaltered, and unless it claims to be sealed in the future.

## Main definitions

* `SealKey`, `SealKey.ofText?` — the key, which is written in base 64.
* `SealKey.seal`, `SealKey.unseal?` — a token made and opened.
-/

namespace ConfigTree.Cipher

/-- The two halves of a key. -/
structure SealKey where
  /-- The half for the code. -/
  signing : Bytes
  /-- The half for the encryption. -/
  encryption : Bytes

/-- The key that a text writes: thirty-two bytes. -/
def SealKey.ofText? (s : String) : Option SealKey := do
  let bytes ← decode64? s
  if bytes.length = 32 then some ⟨bytes.take 16, bytes.drop 16⟩ else none

/-- The first byte of every token. -/
def tokenVersion : UInt8 := 0x80

/-- By how many seconds a clock may be behind the one that sealed. -/
def clockSkew : Nat := 60

/-- The token of a message sealed at a time, with its initial block. -/
def SealKey.seal (key : SealKey) (now : Nat) (initial message : Bytes) : String :=
  let body := tokenVersion :: bigEndian 8 now ++ initial
    ++ Aes.encrypt key.encryption initial message
  encode64 (body ++ hmac key.signing body)

/-- The message in a token, if it can be opened at a time. -/
def SealKey.unseal? (key : SealKey) (now : Nat) (token : String) : Option Bytes := do
  let bytes ← decode64? token
  let length := bytes.length - 32
  let body := bytes.take length
  if bytes.length < 57 ∨ body.head? ≠ some tokenVersion then none
  else if now + clockSkew < ofBigEndian ((body.drop 1).take 8) then none
  else if hmac key.signing body ≠ bytes.drop length then none
  else Aes.decrypt? key.encryption ((body.drop 9).take 16) (body.drop 25)

end ConfigTree.Cipher
