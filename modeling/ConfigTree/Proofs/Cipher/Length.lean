import ConfigTree.Cipher.Fernet
import ConfigTree.Proofs.Outcome
import ConfigTree.Proofs.Text.Bytes
import Mathlib

/-!
# The length of an unsealed text

A token has a character for six bits, and the encryption fills a message up to whole blocks,
so that no text is longer than the token that seals it.

## Main results

* `Cipher.length_le_of_decode64?` — the bytes that a text in base 64 writes.
* `Cipher.length_le_of_decrypt?` — the message in an encrypted text.
* `Cipher.pads_fernet` — no message is longer than its token.
* `Keyring.utf8ByteSize_le_of_decrypt` — the text in a token.
-/

namespace ConfigTree

namespace Cipher

/-! ### Base 64 -/

theorem length_le_of_decode64From? {groups : List Nat} {done bs : Bytes}
    (h : decode64From? done groups = some bs) : bs.length ≤ done.length + groups.length := by
  fun_induction decode64From? done groups with
  | case1 => cases h; simp
  | case2 => cases h
  | case3 => cases h; simp
  | case4 => cases h
  | case5 => cases h; simp
  | case6 => cases h
  | case7 done a b c d rest ih =>
    have hle := ih h
    simp only [List.length_cons] at hle ⊢
    omega

theorem length_eq_of_mapM {α β : Type} {f : α → Option β} {as : List α} {bs : List β}
    (h : as.mapM f = some bs) : bs.length = as.length := by
  induction as generalizing bs with
  | nil => cases h; rfl
  | cons a as ih =>
    rw [List.mapM_cons] at h
    obtain ⟨b, -, hnext⟩ := Option.bind_eq_some_iff.1 h
    obtain ⟨bs', hbs', hall⟩ := Option.bind_eq_some_iff.1 hnext
    cases hall
    simp [ih hbs']

theorem length_le_of_decode64? {s : String} {bs : Bytes} (h : decode64? s = some bs) :
    bs.length ≤ s.utf8ByteSize := by
  obtain ⟨groups, hgroups, hbytes⟩ := Option.bind_eq_some_iff.1 h
  have hle := length_le_of_decode64From? hbytes
  have hlength := length_eq_of_mapM hgroups
  -- the filling at the end is left out, and each character that remains writes a group
  have hdrop := (List.dropWhile_sublist (· == '=') (l := s.toList.reverse)).length_le
  have hchars := Text.length_le_utf8ByteSize s
  simp only [List.length_reverse, List.length_nil] at hlength hdrop hle
  omega

/-! ### Blocks -/

theorem length_flatten_blocksFrom (size : Nat) (done : List Bytes) (n : Nat) (bs : Bytes) :
    (blocksFrom size done n bs).flatten.length ≤ done.flatten.length + bs.length := by
  induction n generalizing done bs with
  | zero => simp [blocksFrom]
  | succ n ih =>
    rw [blocksFrom]
    split
    · simp
    · have hle := ih (bs.take size :: done) (bs.drop size)
      simp only [List.flatten_cons, List.length_append, List.length_take, List.length_drop] at hle
      omega

/-- Each block is at most as long as the one before it, which it is mixed with. -/
theorem length_unchain_le (key before : Bytes) (done blocks : List Bytes) :
    (Aes.unchain key before done blocks).length
      ≤ done.flatten.length + before.length + blocks.flatten.length := by
  induction blocks generalizing before done with
  | nil => simp [Aes.unchain]
  | cons block rest ih =>
    -- the next block is mixed with this one, so that `block` takes the place of `before`
    have hle := ih block (xor (Aes.decryptBlock key block) before :: done)
    have hxor : (xor (Aes.decryptBlock key block) before).length ≤ before.length := by
      simp [xor]
    simp only [List.flatten_cons, List.length_append] at hle ⊢
    rw [Aes.unchain]
    omega

theorem length_le_of_unfill? {filled kept : Bytes} (h : Aes.unfill? filled = some kept) :
    kept.length ≤ filled.length := by
  rw [Aes.unfill?] at h
  split at h
  · cases h
  · dsimp only at h
    split at h
    · cases h
      exact List.length_take_le' _ _
    · cases h

theorem length_le_of_decrypt? {key initial encrypted message : Bytes}
    (h : Aes.decrypt? key initial encrypted = some message) :
    message.length ≤ initial.length + encrypted.length := by
  rw [Aes.decrypt?] at h
  split at h
  · have hkept := length_le_of_unfill? h
    have hchain := length_unchain_le key initial [] (blocks 16 encrypted)
    have hblocks : (blocks 16 encrypted).flatten.length ≤ encrypted.length := by
      simpa [blocks] using length_flatten_blocksFrom 16 [] encrypted.length encrypted
    simp only [List.flatten_nil, List.length_nil] at hchain
    omega
  · cases h

/-- The version, the time, the initial block and the code are left out of the message. -/
theorem length_le_of_unseal? {key : SealKey} {now : Nat} {token : String} {message : Bytes}
    (h : key.unseal? now token = some message) : message.length ≤ token.utf8ByteSize := by
  obtain ⟨bytes, hbytes, hnext⟩ := Option.bind_eq_some_iff.1 h
  have hlength := length_le_of_decode64? hbytes
  dsimp only at hnext
  split at hnext
  · cases hnext
  next hshort =>
    split at hnext
    · cases hnext
    · split at hnext
      · cases hnext
      · have hmessage := length_le_of_decrypt? hnext
        simp only [List.length_take, List.length_drop] at hmessage
        omega

/-- **No message is longer than its token.** -/
theorem pads_fernet (seed : Bytes) (now : Nat) : (fernet seed now).Pads := by
  intro text token message h
  obtain ⟨key, -, hunseal⟩ := Option.bind_eq_some_iff.1 h
  exact length_le_of_unseal? hunseal

theorem utf8ByteSize_of_ofUtf8? {bs : Bytes} {s : String} (h : ofUtf8? bs = some s) :
    s.utf8ByteSize = bs.length := by
  rw [ofUtf8?, String.fromUTF8?] at h
  split at h
  · cases h
    rw [← String.size_toByteArray]
    simp [String.fromUTF8, ByteArray.size]
  · cases h

end Cipher

/-- No text is longer than the token that seals it, if the cipher has no shorter tokens. -/
theorem Keyring.utf8ByteSize_le_of_decrypt {keys : Keyring} (hpads : keys.sealer.Pads)
    {token text : String} (h : keys.decrypt token = .ok text) :
    text.utf8ByteSize ≤ token.utf8ByteSize := by
  obtain ⟨key, -, hnext⟩ := bind_eq_ok_iff.1 h
  split at hnext
  · cases hnext
  next message hmessage =>
    split at hnext
    next text' htext =>
      cases hnext
      rw [Cipher.utf8ByteSize_of_ofUtf8? htext]
      exact hpads key token message hmessage
    · cases hnext

end ConfigTree
