import ConfigTree.Cipher.Fernet
import ConfigTree.Proofs.Cipher.Aes
import ConfigTree.Proofs.Outcome

/-!
# Opening what was sealed

A token holds its parts one after another, each of a length of its own but the encrypted text, so
that they are found again; the code is computed from the same bytes with the same key, and the
encryption is undone by the decryption.  Nothing is assumed of the code but its length.

## Main results

* `ofUtf8?_utf8`, `ofBigEndian_bigEndian` — texts and numbers as bytes.
* `decode64?_encode64` — bytes in base 64.
* `SealKey.unseal?_seal` — the message of a token.
* `Cipher.opens_fernet` — what the cipher has sealed it opens.
* `Keyring.exists_encrypt_decrypt` — what a keyring seals, one with the same tag and key opens.
-/

namespace ConfigTree

namespace Cipher

/-! ### Texts and numbers -/

theorem toList_loop (bs : ByteArray) (i : Nat) (done : Bytes) :
    ByteArray.toList.loop bs i done = done.reverse ++ bs.data.toList.drop i := by
  fun_induction ByteArray.toList.loop bs i done with
  | case1 i done hlt ih =>
    have hlength : i < bs.data.toList.length := hlt
    have hget : bs.get! i = bs.data.toList[i] := by
      rw [Array.getElem_toList]
      exact getElem!_pos bs.data i hlt
    rw [ih, List.reverse_cons, List.append_assoc, hget, List.singleton_append,
      ← List.drop_eq_getElem_cons]
  | case2 i done hge =>
    rw [List.drop_eq_nil_of_le (Nat.le_of_not_lt hge), List.append_nil]

@[simp] theorem ofUtf8?_utf8 (s : String) : ofUtf8? (utf8 s) = some s := by
  have hbytes : ByteArray.mk (utf8 s).toArray = s.toByteArray := by
    rw [utf8, String.toUTF8, ByteArray.toList, toList_loop]
    simp
  rw [ofUtf8?, hbytes, String.fromUTF8?, dif_pos s.isValidUTF8]
  rfl

theorem ofBigEndian_cons (b : UInt8) (bs : Bytes) :
    ofBigEndian (b :: bs) = b.toNat * 256 ^ bs.length + ofBigEndian bs := by
  -- what was read before is moved up by as many bytes as follow
  have hfold (n : Nat) : bs.foldl (fun n b => n * 256 + b.toNat) n
      = n * 256 ^ bs.length + bs.foldl (fun n b => n * 256 + b.toNat) 0 := by
    induction bs generalizing n with
    | nil => simp
    | cons c bs ih =>
      rw [List.foldl_cons, List.foldl_cons, ih, ih (0 * 256 + c.toNat), List.length_cons,
        Nat.pow_succ]
      ring
  rw [ofBigEndian, List.foldl_cons, hfold, Nat.zero_mul, Nat.zero_add, ofBigEndian]

theorem bigEndian_succ (width n : Nat) :
    bigEndian (width + 1) n = UInt8.ofNat (n / 256 ^ width) :: bigEndian width n := by
  rw [bigEndian, List.range_succ, List.reverse_append, List.reverse_singleton,
    List.singleton_append, List.map_cons, Nat.shiftRight_eq_div_pow, Nat.pow_mul]
  rfl

/-- The lowest bytes of a number write what is left of it. -/
@[simp] theorem ofBigEndian_bigEndian (width n : Nat) :
    ofBigEndian (bigEndian width n) = n % 256 ^ width := by
  induction width with
  | zero => simp [bigEndian, ofBigEndian, Nat.mod_one]
  | succ width ih =>
    have hbyte : (UInt8.ofNat (n / 256 ^ width)).toNat = n / 256 ^ width % 256 :=
      UInt8.toNat_ofNat'
    rw [bigEndian_succ, ofBigEndian_cons, ih, length_bigEndian, hbyte, Nat.pow_succ, Nat.mod_mul,
      Nat.mul_comm, Nat.add_comm]

/-! ### Base 64 -/

theorem bits64?_letter64 : ∀ n < 64, bits64? (letter64 n) = some n := by
  decide +kernel

theorem letter64_ne : ∀ n < 64, letter64 n ≠ '=' := by
  decide +kernel

theorem ofNat_eq {n : Nat} {b : UInt8} (h : n % 256 = b.toNat) : UInt8.ofNat n = b := by
  apply UInt8.toNat_inj.1
  exact UInt8.toNat_ofNat'.trans h

/-- A text in base 64 has letters for six-bit groups and then equal signs, and the groups give the
bytes back. -/
theorem exists_groups (bs : Bytes) (written : List Char) :
    ∃ groups pad, encode64From written bs
        = written.reverse ++ (groups.map letter64 ++ List.replicate pad '=')
      ∧ (∀ g ∈ groups, g < 64)
      ∧ ∀ done, decode64From? done groups = some (done.reverse ++ bs) := by
  fun_induction encode64From written bs with
  | case1 written => exact ⟨[], 0, by simp, by simp, by simp [decode64From?]⟩
  | case2 written a n =>
    -- eight bits in two groups, the last four bits of which are zero
    have ha : n < 256 := a.toNat_lt
    refine ⟨[n / 4, n % 4 * 16], 2, by simp [List.replicate], ?_, ?_⟩
    · simp only [List.forall_mem_cons]
      exact ⟨by omega, by omega, by simp⟩
    · intro done
      have hfirst : UInt8.ofNat (n / 4 * 4 + n % 4 * 16 / 16) = a := ofNat_eq (by omega)
      rw [decode64From?, if_pos (by omega), hfirst, List.reverse_cons]
  | case3 written a b n =>
    -- sixteen bits in three groups, the last two bits of which are zero
    have ha := a.toNat_lt
    have hb := b.toNat_lt
    refine ⟨[n / 1024, n / 16 % 64, n % 16 * 4], 1, by simp [List.replicate], ?_, ?_⟩
    · simp only [List.forall_mem_cons]
      exact ⟨by omega, by omega, by omega, by simp⟩
    · intro done
      have hfirst : UInt8.ofNat (n / 1024 * 4 + n / 16 % 64 / 16) = a := ofNat_eq (by omega)
      have hsecond : UInt8.ofNat (n / 16 % 64 * 16 + n % 16 * 4 / 4) = b := ofNat_eq (by omega)
      rw [decode64From?, if_pos (by omega), hfirst, hsecond]
      simp
  -- twenty-four bits in four groups
  | case4 written a b c rest n ih =>
    have ha := a.toNat_lt
    have hb := b.toNat_lt
    have hc := c.toNat_lt
    obtain ⟨groups, pad, hencode, hgroups, hdecode⟩ := ih
    refine ⟨n / 262144 :: n / 4096 % 64 :: n / 64 % 64 :: n % 64 :: groups, pad, ?_, ?_, ?_⟩
    · rw [hencode]
      simp
    · simp only [List.forall_mem_cons]
      exact ⟨by omega, by omega, by omega, by omega, hgroups⟩
    · intro done
      have hfirst : UInt8.ofNat (n / 262144 * 4 + n / 4096 % 64 / 16) = a := ofNat_eq (by omega)
      have hsecond : UInt8.ofNat (n / 4096 % 64 * 16 + n / 64 % 64 / 4) = b :=
        ofNat_eq (by omega)
      have hthird : UInt8.ofNat (n / 64 % 64 * 64 + n % 64) = c := ofNat_eq (by omega)
      rw [decode64From?, hfirst, hsecond, hthird, hdecode]
      simp

theorem dropWhile_letters {groups : List Nat} (hgroups : ∀ g ∈ groups, g < 64) :
    (groups.map letter64).dropWhile (· == '=') = groups.map letter64 := by
  cases groups with
  | nil => rfl
  | cons g groups =>
    have hne := letter64_ne g (hgroups g List.mem_cons_self)
    rw [List.map_cons, List.dropWhile_cons_of_neg (by simpa using hne)]

/-- The letters are left when the equal signs at the end do not count. -/
theorem trim_letters {groups : List Nat} (hgroups : ∀ g ∈ groups, g < 64) (pad : Nat) :
    ((groups.map letter64 ++ List.replicate pad '=').reverse.dropWhile (· == '=')).reverse
      = groups.map letter64 := by
  have hsigns : ∀ c ∈ List.replicate pad '=', (c == '=') = true := by
    intro c hc
    rw [List.eq_of_mem_replicate hc]
    rfl
  have hreverse : ∀ g ∈ groups.reverse, g < 64 := fun g hg => hgroups g (List.mem_reverse.1 hg)
  rw [List.reverse_append, List.reverse_replicate, List.dropWhile_append_of_pos hsigns,
    ← List.map_reverse, dropWhile_letters hreverse, List.map_reverse, List.reverse_reverse]

theorem mapM_letters {groups : List Nat} (hgroups : ∀ g ∈ groups, g < 64) :
    (groups.map letter64).mapM bits64? = some groups := by
  induction groups with
  | nil => rfl
  | cons g groups ih =>
    obtain ⟨hg, hrest⟩ := List.forall_mem_cons.1 hgroups
    rw [List.map_cons, List.mapM_cons, bits64?_letter64 g hg, ih hrest]
    rfl

/-- **Bytes in base 64** are read back. -/
@[simp] theorem decode64?_encode64 (bs : Bytes) : decode64? (encode64 bs) = some bs := by
  obtain ⟨groups, pad, hencode, hgroups, hdecode⟩ := exists_groups bs []
  rw [List.reverse_nil, List.nil_append] at hencode
  simp only [decode64?, encode64, String.toList_ofList, hencode, trim_letters hgroups,
    mapM_letters hgroups]
  exact hdecode []

/-! ### Tokens -/

@[simp] theorem length_sha256 (message : Bytes) : (sha256 message).length = 32 := by
  simp [sha256, Sha256.State.bytes]

@[simp] theorem length_hmac (key message : Bytes) : (hmac key message).length = 32 :=
  length_sha256 _

/-- The body of a token is cut up into what it was put together from. -/
theorem parts_of_body {now : Nat} {initial sealed body : Bytes} (hinitial : initial.length = 16)
    (hbody : body = tokenVersion :: bigEndian 8 now ++ initial ++ sealed) :
    body.length = 25 + sealed.length ∧ body.head? = some tokenVersion
      ∧ (body.drop 1).take 8 = bigEndian 8 now ∧ (body.drop 9).take 16 = initial
      ∧ body.drop 25 = sealed := by
  have htime : (bigEndian 8 now).length = 8 := length_bigEndian 8 now
  have hstamp : (tokenVersion :: bigEndian 8 now).length = 9 := by
    rw [List.length_cons, htime]
  have hahead : (tokenVersion :: bigEndian 8 now ++ initial).length = 25 := by
    rw [List.length_append, hstamp, hinitial]
  subst hbody
  refine ⟨?_, rfl, ?_, ?_, List.drop_left' hahead⟩
  · rw [List.length_append, hahead]
  · rw [List.append_assoc, List.cons_append, List.drop_one, List.tail_cons, List.take_left' htime]
  · rw [List.append_assoc, List.drop_left' hstamp, List.take_left' hinitial]

/-- **A message** is got back from its token with the same key, unless a clock is far behind the
one that sealed. -/
theorem SealKey.unseal?_seal {key : SealKey} (hkey : key.encryption.length = 16) {now now' : Nat}
    (hnow : now < 2 ^ 64) (hskew : now ≤ now' + clockSkew) {initial : Bytes}
    (hinitial : initial.length = 16) (message : Bytes) :
    key.unseal? now' (key.seal now initial message) = some message := by
  obtain ⟨body, hbody⟩ : ∃ body, body = tokenVersion :: bigEndian 8 now ++ initial
      ++ Aes.encrypt key.encryption initial message := ⟨_, rfl⟩
  obtain ⟨hlength, hversion, htime, hblock, hsealed⟩ := parts_of_body hinitial hbody
  -- the signature is the last 32 bytes, and it is that of the rest
  have hcut : (body ++ hmac key.signing body).length - 32 = body.length := by
    rw [List.length_append, length_hmac, Nat.add_sub_cancel]
  have hwhole : ¬ ((body ++ hmac key.signing body).length < 57
      ∨ body.head? ≠ some tokenVersion) := by
    rw [List.length_append, length_hmac, hversion]
    simp only [ne_eq, not_true_eq_false, or_false]
    omega
  -- eight bytes tell the time, so it is read back as it was
  have hclock : ¬ now' + clockSkew < ofBigEndian (bigEndian 8 now) := by
    rw [ofBigEndian_bigEndian, Nat.mod_eq_of_lt (by omega)]
    omega
  rw [SealKey.seal, SealKey.unseal?, ← hbody, decode64?_encode64]
  simp only [Option.bind_eq_bind, Option.bind_some, hcut, List.take_left, List.drop_left]
  rw [if_neg hwhole, htime, if_neg hclock, if_neg (not_not.2 rfl), hblock, hsealed]
  exact Aes.decrypt?_encrypt hkey hinitial message

theorem SealKey.length_of_ofText? {s : String} {key : SealKey} (h : SealKey.ofText? s = some key) :
    key.encryption.length = 16 := by
  obtain ⟨bytes, -, hnext⟩ := Option.bind_eq_some_iff.1 h
  split at hnext
  next hbytes =>
    cases hnext
    rw [List.length_drop, hbytes]
  · cases hnext

/-! ### The cipher -/

variable {seed : Bytes} {now : Nat}

theorem accepts_fernet_iff {text : String} :
    (fernet seed now).accepts text = true ↔ ∃ key, SealKey.ofText? text = some key :=
  Option.isSome_iff_exists

/-- A fresh key is valid. -/
theorem accepts_freshKey (occasion : Occasion) :
    (fernet seed now).accepts ((fernet seed now).freshKey occasion) = true := by
  let bytes := sha256 (seed ++ bigEndian 8 occasion.drawn)
  have hdecode : decode64? (encode64 bytes) = some bytes := decode64?_encode64 bytes
  have hlength : bytes.length = 32 := length_sha256 _
  refine accepts_fernet_iff.2 ⟨⟨bytes.take 16, bytes.drop 16⟩, ?_⟩
  show SealKey.ofText? (encode64 bytes) = _
  simp only [SealKey.ofText?, hdecode, Option.bind_eq_bind, Option.bind_some, hlength, if_true]

theorem length_initialBlock (seed : Bytes) (label : List Nat) (message : Bytes) :
    (initialBlock seed label message).length = 16 := by
  rw [initialBlock, List.length_take, length_hmac]
  rfl

/-- **What the cipher has sealed it opens**, as long as eight bytes tell the time. -/
theorem opens_fernet (seed : Bytes) (hnow : now < 2 ^ 64) : (fernet seed now).Opens := by
  intro text htext occasion message
  obtain ⟨key, hkey⟩ := accepts_fernet_iff.1 htext
  have hskew : now ≤ now + clockSkew := Nat.le_add_right now clockSkew
  have hunseal := SealKey.unseal?_seal (SealKey.length_of_ofText? hkey) hnow hskew
    (length_initialBlock seed occasion.label message) message
  simpa only [fernet, hkey, Option.bind_some] using hunseal

end Cipher

open Cipher

/-- A known tag and a key that the cipher accepts make a key that seals. -/
theorem Keyring.sealKey_eq_ok {k : Keyring} {key : String} (htag : isKnownTag k.tag = true)
    (hkey : k.key = some key) (haccepts : k.sealer.accepts key = true) : k.sealKey = .ok key := by
  simp only [Keyring.sealKey, htag, hkey, haccepts, if_true]

/-- **What a keyring seals, one with the same tag and key opens**: every text has a token, and the
token gives the text back. -/
theorem Keyring.exists_encrypt_decrypt (k k' : Keyring) {key : String}
    (hopens : k.sealer.Opens) (hsealer : k'.sealer = k.sealer) (htag : isKnownTag k.tag = true)
    (htag' : k'.tag = k.tag) (hkey : k.key = some key) (hkey' : k'.key = some key)
    (haccepts : k.sealer.accepts key = true) (text : String) :
    ∃ token, k.encrypt text = .ok token ∧ k'.decrypt token = .ok text := by
  have hseal : k.sealKey = .ok key := sealKey_eq_ok htag hkey haccepts
  have hopen : k'.sealKey = .ok key := sealKey_eq_ok (htag' ▸ htag) hkey' (hsealer ▸ haccepts)
  refine ⟨k.sealer.encrypt key k.occasion (utf8 text), by rw [encrypt, hseal]; rfl, ?_⟩
  have hmessage := hopens key haccepts k.occasion (utf8 text)
  rw [decrypt, hopen, hsealer]
  simp only [ok_bind, hmessage, ofUtf8?_utf8]
  rfl

end ConfigTree
