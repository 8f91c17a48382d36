import ConfigTree.Cipher.Keyring
import ConfigTree.Cipher.Token

/-!
# The cipher that a program runs with

The one cipher there is, with chance and time at hand: a seed nobody can guess, and the
time at which all is said to happen.  What is left to chance is made from the seed and
the occasion, so that no two occasions have the same of it.

## Main definitions

* `Cipher.fernet` — the cipher for a seed and a time.
* `Keyring.keyless` — a keyring without a key, where neither chance nor time matters.
-/

namespace ConfigTree.Cipher

/-- The initial block for a message: it differs from label to label and from message to message,
and cannot be guessed. -/
def initialBlock (seed : Bytes) (label : List Nat) (message : Bytes) : Bytes :=
  (hmac seed (bigEndian 8 label.length ++ label.flatMap (bigEndian 8) ++ message)).take 16

/-- The cipher for a seed and a time in seconds since 1970. -/
def fernet (seed : Bytes) (now : Nat) : Sealer where
  accepts text := (SealKey.ofText? text).isSome
  freshKey occasion := encode64 (sha256 (seed ++ bigEndian 8 occasion.drawn))
  encrypt text occasion message :=
    match SealKey.ofText? text with
    | some key => key.seal now (initialBlock seed occasion.label message) message
    | none => ""
  decrypt? text token := (SealKey.ofText? text).bind fun key => key.unseal? now token

end ConfigTree.Cipher

namespace ConfigTree

/-- The keyring of a tag that has no key. -/
def Keyring.keyless (tag : String) : Keyring := ⟨tag, none, Cipher.fernet [] 0, .first⟩

end ConfigTree
