import ConfigTree.Cipher.Bytes
import ConfigTree.Eval.Error
import ConfigTree.Value

/-!
# Keys and ciphers in use

The cipher of an evaluation is named by a tag, and it may have a key.  A missing
key is drawn at the start.  There is one cipher, so a tag names it or none; a tag
that names none leaves everything that needs a cipher to fail.

What the cipher does comes from outside: whether a text is a key, what it draws, how it
seals and opens.  Drawing and sealing may turn out in another way on each occasion, and
so the cipher is told the occasion: how many keys have been drawn before, and a label
that tells the places of an evaluation apart.

## Main definitions

* `Sealer` — what a cipher does; `Sealer.Opens` says that it opens what it has sealed.
* `Keyring` — tag, key and cipher; `Keyring.ofParameters` reads tag and key from parameters.
* `Keyring.encrypt`, `Keyring.decrypt`, `Keyring.renew`.
* `Keyring.encryptUnder`, `Keyring.decryptUnder` — the same with parameters alone.
-/

namespace ConfigTree

open Cipher

/-! ### Ciphers -/

/-- An occasion to use a cipher. -/
structure Occasion where
  /-- How many keys have been drawn before. -/
  drawn : Nat
  /-- What tells this occasion from others, between two keys. -/
  label : List Nat

namespace Occasion

/-- Before anything is drawn. -/
def first : Occasion := ⟨0, []⟩

/-- After one more key. -/
def next (o : Occasion) : Occasion := { o with drawn := o.drawn + 1 }

/-- The occasion at a place of an evaluation. -/
def labelled (o : Occasion) (label : List Nat) : Occasion := { o with label := label ++ o.label }

end Occasion

/-- What a cipher does. -/
structure Sealer where
  /-- Whether a text is a key. -/
  accepts : String → Bool
  /-- A fresh key. -/
  freshKey : Occasion → String
  /-- The token of a message, sealed with a key. -/
  encrypt : String → Occasion → Bytes → String
  /-- The message in a token, if it was sealed with a key. -/
  decrypt? : String → String → Option Bytes

namespace Sealer

/-- What is sealed with a key, on whatever occasion, is opened with it. -/
def Opens (s : Sealer) : Prop :=
  ∀ key, s.accepts key = true → ∀ occasion message,
    s.decrypt? key (s.encrypt key occasion message) = some message

/-- No message is longer than a token that it is in. -/
def Pads (s : Sealer) : Prop :=
  ∀ key token message, s.decrypt? key token = some message →
    message.length ≤ token.utf8ByteSize

end Sealer

/-- The tag of the cipher that is used unless another is named. -/
def defaultTag : String := "fernet"

/-- Whether a tag names the cipher, in any mixture of cases. -/
def isKnownTag (tag : String) : Bool := String.ofList (tag.toList.map Char.toLower) == defaultTag

/-- A fresh key for the cipher that a tag names. -/
def freshKey? (tag : String) (s : Sealer) (o : Occasion) : Option String :=
  if isKnownTag tag then some (s.freshKey o) else none

/-! ### Keyrings -/

/-- The tag of the cipher, its key, and what the cipher does next. -/
structure Keyring where
  /-- The tag. -/
  tag : String
  /-- The key, if there is one. -/
  key : Option String
  /-- The cipher. -/
  sealer : Sealer
  /-- The next occasion. -/
  occasion : Occasion

namespace Keyring

/-- The keyring for a tag and a key.  A missing tag is the default one, and a missing key is
drawn. -/
def make (tag key : Option String) (s : Sealer) (o : Occasion) : Keyring :=
  let tag := tag.getD defaultTag
  match key with
  | some key => ⟨tag, some key, s, o⟩
  | none => ⟨tag, freshKey? tag s o, s, o.next⟩

/-- The keyring that parameters describe under `etype` and `ekey`; what is no string is
missing. -/
def ofParameters (params : Mapping) (s : Sealer) (o : Occasion) : Keyring :=
  make ((params.get? "etype").bind Value.str?) ((params.get? "ekey").bind Value.str?) s o

/-- The same keys at a place of an evaluation. -/
def labelled (k : Keyring) (label : List Nat) : Keyring :=
  { k with occasion := k.occasion.labelled label }

/-- The key replaced by a fresh one; if the tag is unknown, there is none afterwards. -/
def renew (k : Keyring) : Keyring :=
  { k with key := freshKey? k.tag k.sealer k.occasion, occasion := k.occasion.next }

/-- The key, if the tag is known and the key suits the cipher. -/
def sealKey (k : Keyring) : Evaluated String :=
  if isKnownTag k.tag then
    match k.key with
    | none => .error (.crypto .noKey)
    | some key => if k.sealer.accepts key then .ok key else .error (.crypto .badKey)
  else .error (.crypto (.unknown k.tag))

/-- A text sealed. -/
def encrypt (k : Keyring) (text : String) : Evaluated String := do
  let key ← k.sealKey
  return k.sealer.encrypt key k.occasion (utf8 text)

/-- The text in a token. -/
def decrypt (k : Keyring) (token : String) : Evaluated String := do
  let key ← k.sealKey
  match k.sealer.decrypt? key token with
  | none => throw (.decryption .invalid)
  | some message =>
    match ofUtf8? message with
    | some text => return text
    | none => throw (.decryption .notText)

/-- The keyring of parameters that must hold a key. -/
def requireKey (params : Mapping) (s : Sealer) (o : Occasion) : Evaluated Keyring :=
  match (params.get? "ekey").bind Value.str? with
  | some _ => .ok (ofParameters params s o)
  | none => .error (.crypto .noParameter)

/-- A text sealed with the key that parameters must hold. -/
def encryptUnder (params : Mapping) (s : Sealer) (o : Occasion) (text : String) :
    Evaluated String := do
  (← requireKey params s o).encrypt text

/-- The text in a token that was sealed with the key that parameters must hold. -/
def decryptUnder (params : Mapping) (s : Sealer) (o : Occasion) (token : String) :
    Evaluated String := do
  (← requireKey params s o).decrypt token

end Keyring

end ConfigTree
